/-
`consumer_heartbeat`: calls of `try_send_events` for as long as they say that more
events are left.
-/
import NFCompose.NonBlockingDelivery

namespace NFCompose

/-- One turn of the loop: what happens to the queue before its call, and the
readings of the call. -/
structure HeartbeatTurn where
  arrivals : List QueueAction
  readings : Nat → Reading

/-- The variables of the heartbeat; `followUps` counts the tasks it schedules. -/
structure HeartbeatState where
  consumer : Consumer
  queue : QueueState
  totalSentCount : Nat
  followUps : Nat
  running : Bool

namespace HeartbeatState

def start (consumer : Consumer) (queue : QueueState) : HeartbeatState :=
  ⟨consumer, queue, 0, 0, true⟩

/-- The queue that the call of a turn finds. -/
def found (state : HeartbeatState) (turn : HeartbeatTurn) : QueueState :=
  Runs.run queueStep state.queue turn.arrivals

def call (state : HeartbeatState) (turn : HeartbeatTurn) : Sending :=
  trySendEvents state.consumer (some 100) turn.readings (state.found turn)

end HeartbeatState

/-- One pass of `while True`. -/
def heartbeatStep (maxEventsPerConsumerHeartbeat : Nat) (state : HeartbeatState)
    (turn : HeartbeatTurn) : HeartbeatState :=
  if state.running then
    let sending := state.call turn
    let sent :=
      { state with
        consumer := { state.consumer with health := sending.health }
        queue := sending.state
        totalSentCount := state.totalSentCount + sending.cnt }
    -- an exception leaves the loop like a call that leaves nothing to send
    if sending.raised || !sending.moreEvents then { sent with running := false }
    else if sent.totalSentCount > maxEventsPerConsumerHeartbeat then
      -- back off, give someone else the chance to go again
      { sent with followUps := sent.followUps + 1 }
    else sent
  else state

/-- The heartbeat stops when its threshold is passed, and schedules one task. -/
structure HeartbeatState.WithinBounds (threshold : Nat) (state : HeartbeatState) : Prop where
  stopped : threshold < state.totalSentCount → state.running = false
  handled : state.totalSentCount ≤ threshold + 100
  scheduled : state.followUps ≤ 1

/-- The bounds hold whenever the loop has made some of its turns. -/
def BoundedHeartbeat (threshold : Nat) (consumer : Consumer) (queue : QueueState)
    (turns : List HeartbeatTurn) : Prop :=
  ∀ made, made <+: turns →
    (Runs.run (heartbeatStep threshold) (.start consumer queue) made).WithinBounds threshold

/-- The call of the turn finds more events than it may send, and delivers and saves those. -/
def FullTurn (state : HeartbeatState) (turn : HeartbeatTurn) : Prop :=
  let pending := queryset state.consumer.mode (state.found turn).events
  100 < pending.length ∧ ∀ index < 100, (turn.readings index).delivery.succeeds = true ∧
    ∀ entry, pending[index]? = some entry →
      entry.2.waits (checkedAt turn.readings (state.found turn).now index) = false ∧
        savedAt state.consumer turn.readings (state.found turn).now index entry = true

section Call

variable {state : HeartbeatState} {turn : HeartbeatTurn}

theorem length_readBatch_le (mode : ConsumerMode) (limit : Nat) (events : ConsumerEvents) :
    (readBatch mode (some limit) events).length = min (limit + 1) (queryset mode events).length :=
  List.length_take

theorem call_cnt_le (state : HeartbeatState) (turn : HeartbeatTurn) :
    (state.call turn).cnt ≤ 100 :=
  (wentThrough_trySendEvents state.consumer (some 100) turn.readings
    (state.found turn)).allowed 100 rfl

/-- A call says that more events are left exactly when its turn is full. -/
theorem call_moreEvents_iff (state : HeartbeatState) (turn : HeartbeatTurn) :
    (state.call turn).moreEvents = true ↔ FullTurn state turn := by
  have hwent := wentThrough_trySendEvents state.consumer (some 100) turn.readings
    (state.found turn)
  have hallowed := hwent.allowed 100 rfl
  have hbatch : ∀ index < 100,
      (readBatch state.consumer.mode (some 100) (state.found turn).events)[index]? =
        (queryset state.consumer.mode (state.found turn).events)[index]? :=
    fun index hindex => List.getElem?_take_of_lt (by omega)
  have hlength := length_readBatch_le state.consumer.mode 100 (state.found turn).events
  constructor
  · intro htrue
    obtain ⟨hlimit, hcnt, hleft, -, hsucceeds, hsaved⟩ :=
      hwent.stopped.limit_of_moreEvents htrue
    rw [Option.some.injEq] at hlimit
    rw [← hcnt, ← hlimit] at hleft hsucceeds hsaved
    refine ⟨by omega, fun index hindex => ⟨hsucceeds index hindex, ?_⟩⟩
    intro entry hentry
    rw [← hbatch index hindex] at hentry
    exact ⟨hwent.due index entry (by omega) hentry, hsaved index entry hindex hentry⟩
  · intro ⟨hmany, hfull⟩
    cases hwent.stopped with
    | through hall hcnt => omega
    | waiting entry hentry hwaits hcnt =>
        rw [hbatch _ (by omega)] at hentry
        rw [((hfull _ (by omega)).2 entry hentry).1] at hwaits
        cases hwaits
    | failed last hlast hfails hcnt =>
        rw [(hfull last (by omega)).1] at hfails
        cases hfails
    | raised last entry hlast hentry hunsaved =>
        rw [hbatch _ (by omega)] at hentry
        rw [((hfull last (by omega)).2 entry hentry).2] at hunsaved
        cases hunsaved
    | limit _ _ _ hmore => exact hmore

theorem call_not_raised (hmore : (state.call turn).moreEvents = true) :
    (state.call turn).raised = false :=
  ((wentThrough_trySendEvents state.consumer (some 100) turn.readings
    (state.found turn)).stopped.limit_of_moreEvents hmore).2.2.2.1

theorem call_cnt_of_more (hmore : (state.call turn).moreEvents = true) :
    (state.call turn).cnt = 100 := by
  have hwent := wentThrough_trySendEvents state.consumer (some 100) turn.readings
    (state.found turn)
  exact (Option.some.inj (hwent.stopped.limit_of_moreEvents hmore).1).symm

end Call

section Loop

variable {threshold : Nat} {state : HeartbeatState} {turn : HeartbeatTurn}

theorem heartbeatStep_stopped (hstopped : state.running = false) :
    heartbeatStep threshold state turn = state := by
  rw [heartbeatStep, if_neg (by rw [hstopped]; decide)]

/-- After a full turn the loop goes on, whether it scheduled a task or not. -/
theorem heartbeatStep_full (threshold : Nat) (hrunning : state.running = true)
    (hfull : FullTurn state turn) :
    (heartbeatStep threshold state turn).running = true ∧
      (heartbeatStep threshold state turn).totalSentCount = state.totalSentCount + 100 ∧
      (heartbeatStep threshold state turn).followUps = state.followUps +
        if threshold < state.totalSentCount + 100 then 1 else 0 := by
  have hmore := (call_moreEvents_iff state turn).mpr hfull
  have hcnt := call_cnt_of_more hmore
  simp only [heartbeatStep, hrunning, ↓reduceIte, call_not_raised hmore, hmore, hcnt,
    Bool.not_true, Bool.or_self, Bool.false_eq_true, gt_iff_lt]
  split
  · exact ⟨rfl, rfl, rfl⟩
  · exact ⟨rfl, rfl, rfl⟩

/-- Any other turn is the last one. -/
theorem heartbeatStep_last (threshold : Nat) (hrunning : state.running = true)
    (hlast : ¬FullTurn state turn) :
    (heartbeatStep threshold state turn).running = false ∧
      (heartbeatStep threshold state turn).totalSentCount ≤ state.totalSentCount + 100 ∧
      (heartbeatStep threshold state turn).followUps = state.followUps := by
  have hmore : (state.call turn).moreEvents = false := by
    rw [← call_moreEvents_iff, Bool.not_eq_true] at hlast
    exact hlast
  simp only [heartbeatStep, hrunning, ↓reduceIte, hmore, Bool.not_false, Bool.or_true]
  exact ⟨trivial, Nat.add_le_add_left (call_cnt_le state turn) _, trivial⟩

/-- A loop that has made full turns only. -/
structure OnlyFull (threshold : Nat) (made : List HeartbeatTurn) (state : HeartbeatState) :
    Prop where
  running : state.running = true
  handled : state.totalSentCount = 100 * made.length
  scheduled : state.followUps = made.length - threshold / 100

theorem onlyFull_run (threshold : Nat) (consumer : Consumer) (queue : QueueState)
    {made : List HeartbeatTurn}
    (hfull : Runs.AllSteps (heartbeatStep threshold) FullTurn (.start consumer queue) made) :
    OnlyFull threshold made
      (Runs.run (heartbeatStep threshold) (.start consumer queue) made) := by
  apply Runs.run_along (fun state made => OnlyFull threshold made state) _ _ hfull
  · intro state made turn ⟨hrunning, hhandled, hscheduled⟩ hturn
    obtain ⟨hstill, htotal, htasks⟩ := heartbeatStep_full threshold hrunning hturn
    refine ⟨hstill, ?_, ?_⟩
    · rw [htotal, hhandled, List.length_append, List.length_singleton, Nat.mul_succ]
    · rw [htasks, hscheduled, hhandled, List.length_append, List.length_singleton]
      split <;> omega
  · exact ⟨rfl, rfl, (Nat.zero_sub _).symm⟩

/-- The loop has only made full turns, or it has stopped below its bounds. -/
theorem full_or_stopped (consumer : Consumer) (queue : QueueState) (made : List HeartbeatTurn)
    (hshort : ∀ first, first <+: made →
      Runs.AllSteps (heartbeatStep threshold) FullTurn (.start consumer queue) first →
      first.length ≤ threshold / 100) :
    let state := Runs.run (heartbeatStep threshold) (.start consumer queue) made
    Runs.AllSteps (heartbeatStep threshold) FullTurn (.start consumer queue) made ∨
      state.running = false ∧ state.totalSentCount ≤ threshold + 100 ∧ state.followUps = 0 := by
  induction made using List.reverseRecOn with
  | nil => exact Or.inl trivial
  | append_singleton made turn ih =>
      have hprefix : made <+: made ++ [turn] := List.prefix_append made [turn]
      have hearlier := ih fun first hfirst => hshort first (hfirst.trans hprefix)
      rw [Runs.run_append, Runs.allSteps_append, Runs.run_cons, Runs.run_nil]
      rcases hearlier with hfull | ⟨hstopped, hbounds⟩
      · obtain ⟨hrunning, hhandled, hscheduled⟩ := onlyFull_run threshold consumer queue hfull
        by_cases hturn : FullTurn
            (Runs.run (heartbeatStep threshold) (.start consumer queue) made) turn
        · exact Or.inl ⟨hfull, hturn, trivial⟩
        · right
          have hlength := hshort made hprefix hfull
          obtain ⟨hstopped, htotal, htasks⟩ :=
            heartbeatStep_last threshold hrunning hturn
          refine ⟨hstopped, ?_, ?_⟩
          · omega
          · rw [htasks, hscheduled]
            omega
      · right
        rw [heartbeatStep_stopped hstopped]
        exact ⟨hstopped, hbounds⟩

end Loop

/-- The heartbeat keeps its bounds exactly when one of the turns up to the one that
passes the threshold is not full. -/
theorem heartbeat_bounded_iff (threshold : Nat) (consumer : Consumer) (queue : QueueState)
    (turns : List HeartbeatTurn) :
    BoundedHeartbeat threshold consumer queue turns ↔
      ¬(threshold / 100 < turns.length ∧
        Runs.AllSteps (heartbeatStep threshold) FullTurn (.start consumer queue)
          (turns.take (threshold / 100 + 1))) := by
  constructor
  · intro hbounded ⟨hlong, hfull⟩
    obtain ⟨hrunning, hhandled, -⟩ := onlyFull_run threshold consumer queue hfull
    have hstopped := (hbounded _ (List.take_prefix (threshold / 100 + 1) turns)).stopped
    rw [hhandled, hrunning, List.length_take] at hstopped
    have hfalse := hstopped (by omega)
    cases hfalse
  · intro hnot made hmade
    have hshort : ∀ first, first <+: made →
        Runs.AllSteps (heartbeatStep threshold) FullTurn (.start consumer queue) first →
        first.length ≤ threshold / 100 := by
      intro first hfirst hfull
      by_contra hlong
      have hprefix := hfirst.trans hmade
      have htake : turns.take (threshold / 100 + 1) = first.take (threshold / 100 + 1) := by
        obtain ⟨rest, rfl⟩ := hprefix
        exact List.take_append_of_le_length (not_le.mp hlong)
      apply hnot
      refine ⟨by have := hprefix.length_le; omega, ?_⟩
      rw [htake]
      rw [← List.take_append_drop (threshold / 100 + 1) first, Runs.allSteps_append] at hfull
      exact hfull.1
    rcases full_or_stopped consumer queue made hshort with hfull | ⟨hstopped, htotal, htasks⟩
    · obtain ⟨-, hhandled, hscheduled⟩ := onlyFull_run threshold consumer queue hfull
      have hlength := hshort made (List.prefix_refl made) hfull
      exact ⟨fun _ => by omega, by omega, by omega⟩
    · exact ⟨fun _ => hstopped, htotal, by omega⟩

section LongQueue

/-- How many events are still to be delivered. -/
def undelivered (events : ConsumerEvents) : Nat :=
  (events.entries.filter fun entry => ¬entry.2.Done).length

theorem length_queryset (mode : ConsumerMode) (events : ConsumerEvents) :
    (queryset mode events).length = undelivered events := by
  cases mode <;> exact List.length_insertionSort _ _

/-- A delivered event leaves the queue. -/
theorem undelivered_insert {events : ConsumerEvents} {id : Nat} {event delivered : ConsumerEvent}
    (hevent : events.lookup id = some event) (hpending : ¬event.Done) (hdone : delivered.Done) :
    undelivered (events.insert id delivered) + 1 = undelivered events := by
  have hmem : (⟨id, event⟩ : QueuedEvent) ∈ events.entries :=
    List.of_mem_dlookup hevent
  obtain ⟨stored, front, back, -, hsplit, herase⟩ :=
    List.exists_of_kerase (List.mem_keys_of_mem hmem)
  have hstored : stored = event :=
    events.nodupKeys.eq_of_mk_mem (by rw [hsplit]; simp) hmem
  subst hstored
  have hentries : (events.insert id delivered).entries = ⟨id, delivered⟩ :: (front ++ back) := by
    rw [← herase]
    rfl
  rw [undelivered, undelivered, hentries, hsplit, List.filter_cons_of_neg (by simpa using hdone),
    List.filter_append, List.filter_append, List.filter_cons_of_pos (by simpa using hpending),
    List.length_append, List.length_append, List.length_cons, Nat.add_assoc]

/-- Nothing that is still to be delivered was tried before. -/
def Untried (events : ConsumerEvents) : Prop :=
  ∀ id event, events.lookup id = some event → ¬event.Done → event.handleAt = none

theorem fullTurn_of_untried {state : HeartbeatState} {readings : Nat → Reading}
    (huntried : Untried state.queue.events) (hmany : 100 < undelivered state.queue.events)
    (haccepts : ∀ index, (readings index).delivery.succeeds = true)
    (hstorable : ∀ consumer index, (readings index).delivery.storable consumer = true) :
    FullTurn state ⟨[], readings⟩ := by
  refine ⟨?_, fun index _ => ⟨haccepts index, ?_⟩⟩
  · rw [length_queryset]
    exact hmany
  · intro entry hentry
    obtain ⟨hstored, hpending⟩ := mem_queryset.mp (List.mem_of_getElem? hentry)
    refine ⟨?_, savedAt_of_succeeds (haccepts index) (hstorable _ index) _ entry⟩
    rw [ConsumerEvent.waits, huntried _ _ hstored hpending]
    rfl

/-- A delivery that succeeds takes its event off the queue. -/
theorem untried_save {consumer : Consumer} {readings : Nat → Reading} {count : Nat}
    (haccepts : ∀ index, (readings index).delivery.succeeds = true) (events : ConsumerEvents)
    (history : List Save) (save : Save) (_ : save.consumer = consumer)
    (hdelivery : ∃ turn, save.delivery = (readings turn).delivery)
    (hstored : events.lookup save.eventId = some save.before) (hpending : ¬save.before.Done)
    (hbefore : Untried events ∧ undelivered events + history.length = count) :
    Untried (events.insert save.eventId save.event) ∧
      undelivered (events.insert save.eventId save.event) + (history ++ [save]).length =
        count := by
  obtain ⟨hevents, hcount⟩ := hbefore
  obtain ⟨turn, hturn⟩ := hdelivery
  have hdone : save.event.Done := by
    apply afterDelivery_done
    rw [hturn, haccepts]
  constructor
  · intro id event hevent hnotDone
    by_cases hid : id = save.eventId
    · rw [hid, AList.lookup_insert, Option.some.injEq] at hevent
      exact absurd (hevent ▸ hdone) hnotDone
    · rw [AList.lookup_insert_ne hid] at hevent
      exact hevents id event hevent hnotDone
  · rw [← hcount, ← undelivered_insert hstored hpending hdone, List.length_append,
      List.length_singleton]
    omega

/-- A call whose deliveries succeed takes what it attempts off the queue. -/
theorem untried_call {state : HeartbeatState} {readings : Nat → Reading}
    (huntried : Untried state.queue.events)
    (haccepts : ∀ index, (readings index).delivery.succeeds = true)
    (hstorable : ∀ consumer index, (readings index).delivery.storable consumer = true) :
    let sending := state.call ⟨[], readings⟩
    Untried sending.state.events ∧
      undelivered sending.state.events + sending.attempts.length =
        undelivered state.queue.events := by
  intro sending
  have hcall : Untried sending.state.events ∧ undelivered sending.state.events +
      (savesOf state.consumer readings sending.attempts).length =
        undelivered state.queue.events := by
    apply trySendEvents_saves (motive := fun events history => Untried events ∧
      undelivered events + history.length = undelivered state.queue.events)
    · exact untried_save haccepts
    · exact fun turn entry _ =>
        savedAt_of_succeeds (haccepts turn) (hstorable _ turn) _ entry
    · exact ⟨huntried, rfl⟩
  rwa [savesOf, List.length_map, List.length_zipIdx] at hcall

theorem call_attempts_of_more {state : HeartbeatState} {turn : HeartbeatTurn}
    (hmore : (state.call turn).moreEvents = true) : (state.call turn).attempts.length = 100 := by
  have hwent := wentThrough_trySendEvents state.consumer (some 100) turn.readings
    (state.found turn)
  have hsame := (hwent.stopped.limit_of_moreEvents hmore).2.1
  exact hsame.symm.trans (call_cnt_of_more hmore)

/-- A long queue that a target accepts makes every turn full. -/
theorem fullTurns_of_untried (threshold : Nat) {readings : Nat → Reading}
    (haccepts : ∀ index, (readings index).delivery.succeeds = true)
    (hstorable : ∀ consumer index, (readings index).delivery.storable consumer = true)
    (count : Nat)
    {state : HeartbeatState} (hrunning : state.running = true)
    (huntried : Untried state.queue.events)
    (hmany : 100 * count < undelivered state.queue.events) :
    Runs.AllSteps (heartbeatStep threshold) FullTurn state
      (List.replicate count ⟨[], readings⟩) := by
  induction count generalizing state with
  | zero => trivial
  | succ count ih =>
      have hfull : FullTurn state ⟨[], readings⟩ :=
        fullTurn_of_untried huntried (by omega) haccepts hstorable
      have hmore := (call_moreEvents_iff state ⟨[], readings⟩).mpr hfull
      obtain ⟨hnext, hleft⟩ := untried_call huntried haccepts hstorable
      rw [call_attempts_of_more hmore] at hleft
      have hqueue : (heartbeatStep threshold state ⟨[], readings⟩).queue =
          (state.call ⟨[], readings⟩).state := by
        simp only [heartbeatStep, hrunning, ↓reduceIte, call_not_raised hmore, hmore,
          Bool.not_true, Bool.or_self, Bool.false_eq_true]
        split <;> rfl
      rw [List.replicate_succ]
      refine ⟨hfull, ih (heartbeatStep_full threshold hrunning hfull).1 ?_ ?_⟩
      · rwa [hqueue]
      · rw [hqueue]
        omega

end LongQueue

namespace HeartbeatWitness

def newEvent : ConsumerEvent := dataPointEvent 0 none "" .dataPointChanged

/-- New events with the ids below `count`. -/
def newEvents (count : Nat) : ConsumerEvents where
  entries := (List.range count).map fun id => ⟨id, newEvent⟩
  nodupKeys := by
    simpa [List.NodupKeys, List.keys, Function.comp_def] using List.nodup_range

theorem untried_newEvents (count : Nat) : Untried (newEvents count) := by
  intro id event hevent _
  have hmem : (⟨id, event⟩ : QueuedEvent) ∈ (newEvents count).entries :=
    List.of_mem_dlookup hevent
  obtain ⟨other, -, heq⟩ := List.mem_map.mp hmem
  rw [← eq_of_heq (Sigma.mk.inj heq).2]
  rfl

theorem undelivered_newEvents (count : Nat) : undelivered (newEvents count) = count := by
  have hall : (newEvents count).entries.filter (fun entry => ¬entry.2.Done) =
      (newEvents count).entries := by
    rw [List.filter_eq_self]
    intro entry hentry
    obtain ⟨id, -, rfl⟩ := List.mem_map.mp hentry
    exact decide_eq_true (show ¬newEvent.Done by decide)
  rw [undelivered, hall, newEvents, List.length_map, List.length_range]

def accepting (_ : Nat) : Reading := ⟨0, 0, 0, .answered ⟨"ok", [], 200, none⟩ ""⟩

theorem storable_accepting (consumer : Consumer) (turn : Nat) :
    (accepting turn).delivery.storable consumer = true := by
  have htext : sanitizeResponse consumer "ok" = "ok" := by
    rw [sanitizeResponse, if_neg (show ¬"ok".length > maxResponseLength by decide), ite_self]
  have hheaders : sanitizeHeaders consumer [] = [] := ite_self _
  show Delivery.storable consumer (.answered ⟨"ok", [], 200, none⟩ "") = true
  rw [Delivery.storable, Delivery.response, Option.all_some, htext, hheaders]
  decide

/-- With the default threshold and 401 new events the follow-up is scheduled twice. -/
theorem long_queue_exceeds_bounds :
    ¬BoundedHeartbeat 200 DeliveryWitness.consumer ⟨0, newEvents 401⟩
      (List.replicate 4 ⟨[], accepting⟩) := by
  intro hbounded
  have hfull : Runs.AllSteps (heartbeatStep 200) FullTurn
      (.start DeliveryWitness.consumer ⟨0, newEvents 401⟩)
      (List.replicate 4 ⟨[], accepting⟩) :=
    fullTurns_of_untried 200 (fun _ => rfl) storable_accepting 4 rfl (untried_newEvents 401)
      (by rw [HeartbeatState.start, undelivered_newEvents]; decide)
  have hscheduled := (onlyFull_run 200 _ _ hfull).scheduled
  have hbound := (hbounded _ (List.prefix_refl _)).scheduled
  rw [hscheduled] at hbound
  exact absurd hbound (by decide)

end HeartbeatWitness

end NFCompose
