/-
One transaction of the delivery of events, turn by turn: what it has locked, what it has
saved, and what is left of the events once it is committed or rolled back.
-/
import NFCompose.DataPointEvents

namespace NFCompose

namespace DataPointEvents

section Sessions

variable {format : PayloadFormat} {events : ConsumerEvents} {session : Session}
  {id : DataPointId} {eventId : Nat} {event : ConsumerEvent}

/-- An event that is still to be delivered names the data point. -/
def Undelivered (format : PayloadFormat) (events : ConsumerEvents) (id : DataPointId) : Prop :=
  ∃ eventId event payload, events.lookup eventId = some event ∧ event.state ≠ .success ∧
    format.loads event.payload = some payload ∧ payload.Names id

/-- The session holds rows that nobody else changes, and has saved nothing yet of those that
are left. -/
structure SessionInv (session : Session) (events : ConsumerEvents) : Prop where
  batch : ∀ entry ∈ session.locked, session.batch.lookup entry.1 = some entry.2
  held : ∀ entry ∈ session.locked, events.lookup entry.1 = some entry.2 ∧ ¬ entry.2.Done
  saved : ∀ entry ∈ session.locked, ∃ event,
    session.sending.state.events.lookup entry.1 = some event ∧ event.payload = entry.2.payload
  left : ∀ entry ∈ session.rest, entry ∈ session.locked ∧
    session.sending.state.events.lookup entry.1 = some entry.2
  distinct : session.rest.Pairwise fun left right => left.1 ≠ right.1

theorem lookup_foldl_saved (saved : ConsumerEvents) (locked : List QueuedEvent)
    (hsaved : ∀ entry ∈ locked, (saved.lookup entry.1).isSome) (events : ConsumerEvents)
    (eventId : Nat) :
    (locked.foldl (fun events entry => match saved.lookup entry.1 with
      | none => events
      | some event => events.insert entry.1 event) events).lookup eventId =
        if eventId ∈ locked.map Sigma.fst then saved.lookup eventId else events.lookup eventId := by
  induction locked generalizing events with
  | nil => rfl
  | cons entry locked ih =>
      obtain ⟨hentry, hlocked⟩ := List.forall_mem_cons.mp hsaved
      obtain ⟨event, hevent⟩ := Option.isSome_iff_exists.mp hentry
      rw [List.foldl_cons, ih hlocked, hevent, List.map_cons]
      by_cases hmem : eventId ∈ locked.map Sigma.fst
      · rw [if_pos hmem, if_pos (List.mem_cons_of_mem _ hmem)]
      · rw [if_neg hmem]
        by_cases hid : eventId = entry.1
        · subst hid
          rw [if_pos List.mem_cons_self, hevent]
          exact AList.lookup_insert _
        · rw [if_neg (List.mem_cons.not.mpr (not_or.mpr ⟨hid, hmem⟩))]
          exact AList.lookup_insert_ne hid

theorem SessionInv.lookup_commit (hinv : SessionInv session events) (eventId : Nat) :
    (session.commit events).lookup eventId =
      if eventId ∈ session.locked.map Sigma.fst then
        session.sending.state.events.lookup eventId
      else events.lookup eventId := by
  refine lookup_foldl_saved _ _ (fun entry hentry => ?_) events eventId
  obtain ⟨saved, hsaved, -⟩ := hinv.saved entry hentry
  rw [hsaved]
  rfl

/-- What the transaction has not delivered is not delivered if it is rolled back. -/
theorem SessionInv.undelivered_of_commit (hinv : SessionInv session events)
    (hundelivered : Undelivered format (session.commit events) id) :
    Undelivered format events id := by
  obtain ⟨eventId, event, payload, hevent, hstate, hloads, hnames⟩ := hundelivered
  rw [hinv.lookup_commit] at hevent
  split at hevent
  · next hmem =>
      obtain ⟨entry, hentry, rfl⟩ := List.mem_map.mp hmem
      obtain ⟨hheld, hpending⟩ := hinv.held entry hentry
      obtain ⟨saved, hsaved, hpayload⟩ := hinv.saved entry hentry
      rw [hsaved, Option.some.injEq] at hevent
      subst hevent
      exact ⟨entry.1, entry.2, payload, hheld, fun hsuccess => hpending (.inr hsuccess),
        hpayload ▸ hloads, hnames⟩
  · exact ⟨eventId, event, payload, hevent, hstate, hloads, hnames⟩

theorem readBatch_spec (mode : ConsumerMode) (maxEvents : Option Nat) (events : ConsumerEvents) :
    (∀ entry ∈ readBatch mode maxEvents events,
      events.lookup entry.1 = some entry.2 ∧ ¬ entry.2.Done) ∧
      (readBatch mode maxEvents events).Pairwise fun left right => left.1 ≠ right.1 := by
  obtain ⟨cut, hcut⟩ := readBatch_append mode maxEvents events
  have hids := queryset_ids mode events
  rw [← hcut, List.pairwise_append] at hids
  refine ⟨fun entry hentry => ?_, hids.1⟩
  rw [← mem_queryset, ← hcut]
  exact List.mem_append_left cut hentry

/-- A session starts from what it has locked. -/
theorem sessionInv_start (consumer : Consumer) (maxEvents : Option Nat) (now : Instant)
    (events : ConsumerEvents) :
    SessionInv (.start consumer maxEvents now events) events := by
  obtain ⟨hread, hdistinct⟩ := readBatch_spec consumer.mode maxEvents events
  exact ⟨fun entry hentry => (hread entry hentry).1, hread,
    fun entry hentry => ⟨entry.2, (hread entry hentry).1, rfl⟩,
    fun entry hentry => ⟨hentry, (hread entry hentry).1⟩, hdistinct⟩

theorem lookup_commit_start (consumer : Consumer) (maxEvents : Option Nat) (now : Instant)
    (events : ConsumerEvents) (eventId : Nat) :
    ((Session.start consumer maxEvents now events).commit events).lookup eventId =
      events.lookup eventId := by
  rw [(sessionInv_start consumer maxEvents now events).lookup_commit]
  split <;> rfl

theorem undelivered_congr {events next : ConsumerEvents} {id : DataPointId}
    (hsame : ∀ eventId, next.lookup eventId = events.lookup eventId)
    (hundelivered : Undelivered format events id) : Undelivered format next id := by
  obtain ⟨eventId, event, payload, hevent, hrest⟩ := hundelivered
  exact ⟨eventId, event, payload, (hsame eventId).trans hevent, hrest⟩

theorem mem_of_lookup_events {events : ConsumerEvents} {eventId : Nat} {event : ConsumerEvent}
    (hlookup : events.lookup eventId = some event) : eventId ∈ events :=
  AList.lookup_isSome.mp (Option.isSome_iff_exists.mpr ⟨event, hlookup⟩)

/-- A session does not see the events that come while it runs. -/
theorem SessionInv.insert {session : Session} {events : ConsumerEvents} {eventId : Nat}
    (hinv : SessionInv session events) (hfresh : eventId ∉ events) (event : ConsumerEvent) :
    SessionInv session (events.insert eventId event) := by
  obtain ⟨hbatch, hheld, hsaved, hleft, hdistinct⟩ := hinv
  refine ⟨hbatch, fun entry hentry => ?_, hsaved, hleft, hdistinct⟩
  obtain ⟨hlookup, hpending⟩ := hheld entry hentry
  have hne : entry.1 ≠ eventId := fun heq => hfresh (heq ▸ mem_of_lookup_events hlookup)
  exact ⟨(AList.lookup_insert_ne hne).trans hlookup, hpending⟩

theorem lookup_insert_event (events : ConsumerEvents) (eventId id : Nat) (event : ConsumerEvent) :
    (events.insert eventId event).lookup id =
      if id = eventId then some event else events.lookup id := by
  split
  · next heq =>
      rw [heq]
      exact AList.lookup_insert _
  · next hne => exact AList.lookup_insert_ne hne

/-- A session has no events but those of the consumer. -/
theorem SessionInv.mem_of_lookup_commit {session : Session} {events : ConsumerEvents}
    {eventId : Nat} {event : ConsumerEvent} (hinv : SessionInv session events)
    (hlookup : (session.commit events).lookup eventId = some event) : eventId ∈ events := by
  rw [hinv.lookup_commit] at hlookup
  split at hlookup
  · next hmem =>
      obtain ⟨entry, hentry, rfl⟩ := List.mem_map.mp hmem
      exact mem_of_lookup_events (hinv.held entry hentry).1
  · exact mem_of_lookup_events hlookup

/-- What one turn of the loop comes to: it posts nothing and the events stay, or it posts the
event at the head and saves what comes of it. -/
structure Posted (session : Session) (events : ConsumerEvents) (reading : Reading)
    (body : EventBody) (entry : QueuedEvent) (saved : ConsumerEvent) : Prop where
  body_payload : body.payload = entry.2.payload
  before : (session.commit events).lookup entry.1 = some entry.2
  payload_eq : saved.payload = entry.2.payload
  undelivered : reading.delivery.succeeds = false → saved.state ≠ .success
  after : ∀ eventId, ((session.turn reading).1.commit events).lookup eventId =
    if eventId = entry.1 then some saved else (session.commit events).lookup eventId

theorem startCycle_payload (settings : Consumer) (event : ConsumerEvent) :
    (event.startCycle settings).payload = event.payload := by
  rw [ConsumerEvent.startCycle]
  split <;> rfl

theorem afterDelivery_payload (settings : Consumer) (event : ConsumerEvent) (delivery : Delivery)
    (now : Instant) : (event.afterDelivery settings delivery now).payload = event.payload := by
  rw [ConsumerEvent.afterDelivery]
  split <;> rfl

theorem afterDelivery_undelivered (settings : Consumer) (event : ConsumerEvent)
    {delivery : Delivery} (hfails : delivery.succeeds = false) (now : Instant) :
    (event.afterDelivery settings delivery now).state ≠ .success := by
  rw [ConsumerEvent.afterDelivery, if_neg (by simp [hfails])]
  simp only [ConsumerEvent.afterFailure]
  split <;> decide

/-- A session whose variables have the same events. -/
theorem SessionInv.of_events {session next : Session} {events : ConsumerEvents}
    (hinv : SessionInv session events) (hbatch : next.batch = session.batch)
    (hlocked : next.locked = session.locked) (hrest : next.rest = session.rest)
    (hevents : next.sending.state.events = session.sending.state.events) :
    SessionInv next events ∧ next.commit events = session.commit events := by
  obtain ⟨hread, hheld, hsaved, hleft, hdistinct⟩ := hinv
  refine ⟨⟨?_, ?_, ?_, ?_, ?_⟩, ?_⟩
  · rwa [hlocked, hbatch]
  · rwa [hlocked]
  · rwa [hlocked, hevents]
  · rwa [hlocked, hrest, hevents]
  · rwa [hrest]
  · rw [Session.commit, Session.commit, hlocked, hevents]

theorem SessionInv.attempt {session : Session} {events : ConsumerEvents} {entry : QueuedEvent}
    {rest : List QueuedEvent} (hinv : SessionInv session events)
    (hrest : session.rest = entry :: rest) (reading : Reading) :
    SessionInv { session with
      rest := rest
      sending := session.sending.attempt session.consumer session.batch reading entry } events := by
  obtain ⟨hbatch, hheld, hsaved, hleft, hdistinct⟩ := hinv
  rw [hrest] at hleft hdistinct
  obtain ⟨hne, hdistinct⟩ := List.pairwise_cons.mp hdistinct
  refine ⟨hbatch, hheld, fun other hother => ?_, fun other hother => ?_, hdistinct⟩
  · simp only [Sending.attempt, lookup_insert_event]
    by_cases hid : other.1 = entry.1
    · have hentry := (hheld entry (hleft entry List.mem_cons_self).1).1
      have hsame : other.2 = entry.2 := by
        have hlookup := (hheld other hother).1
        rw [hid, hentry, Option.some.injEq] at hlookup
        exact hlookup.symm
      rw [if_pos hid, hsame]
      exact ⟨_, rfl, (afterDelivery_payload _ _ _ _).trans (startCycle_payload _ _)⟩
    · rw [if_neg hid]
      exact hsaved other hother
  · obtain ⟨hlocked, hlookup⟩ := hleft other (List.mem_cons_of_mem _ hother)
    refine ⟨hlocked, ?_⟩
    simp only [Sending.attempt, lookup_insert_event]
    rw [if_neg (hne other hother).symm]
    exact hlookup

/-- A transaction that is rolled back leaves the rows as it has read them. -/
theorem SessionInv.rollBack {session : Session} {events : ConsumerEvents} {entry : QueuedEvent}
    {rest : List QueuedEvent} (hinv : SessionInv session events)
    (hrest : session.rest = entry :: rest) (posted : Sending) :
    let next := { session with
      rest := rest
      sending := posted.rollBack session.consumer session.batch }
    SessionInv next events ∧ ∀ eventId, (next.commit events).lookup eventId =
      events.lookup eventId := by
  obtain ⟨hbatch, hheld, -, hleft, hdistinct⟩ := hinv
  rw [hrest] at hleft hdistinct
  have hnext : SessionInv { session with
      rest := rest
      sending := posted.rollBack session.consumer session.batch } events :=
    ⟨hbatch, hheld, fun other hother => ⟨other.2, hbatch other hother, rfl⟩,
      fun other hother =>
        have hlocked := (hleft other (List.mem_cons_of_mem _ hother)).1
        ⟨hlocked, hbatch other hlocked⟩,
      (List.pairwise_cons.mp hdistinct).2⟩
  refine ⟨hnext, fun eventId => ?_⟩
  rw [hnext.lookup_commit]
  split
  · next hmem =>
      obtain ⟨other, hother, rfl⟩ := List.mem_map.mp hmem
      exact (hbatch other hother).trans (hheld other hother).1.symm
  · rfl

/-- A turn that posts nothing leaves the rows alone; one that posts takes the head, and saves it
or rolls back. -/
theorem turn_cases (session : Session) (reading : Reading) :
    (session.posted reading = none ∧ (session.turn reading).1.batch = session.batch ∧
      (session.turn reading).1.locked = session.locked ∧
      (session.turn reading).1.rest = session.rest ∧
      (session.turn reading).1.sending.state.events = session.sending.state.events) ∨
    ∃ entry rest, session.rest = entry :: rest ∧
      session.posted reading =
        some ((entry.2.startCycle session.consumer).body session.consumer) ∧
      ((session.turn reading).1 = { session with
          rest := rest
          sending := session.sending.attempt session.consumer session.batch reading entry } ∨
        (session.turn reading).1 = { session with
          rest := rest
          sending := (session.sending.post session.consumer session.batch reading entry).rollBack
            session.consumer session.batch }) := by
  unfold Session.turn Session.posted
  cases hrest : session.rest with
  | nil => exact .inl ⟨rfl, rfl, rfl, hrest, rfl⟩
  | cons entry rest =>
      dsimp only
      by_cases hlimit : session.maxEvents.any fun limit => limit ≤ session.sending.cnt
      · rw [if_pos hlimit, if_pos hlimit]
        exact .inl ⟨rfl, rfl, rfl, rfl, rfl⟩
      rw [if_neg hlimit, if_neg hlimit]
      by_cases hwait : entry.2.handleAt.any fun handleAt =>
          session.sending.state.now + reading.untilCheck < handleAt
      · rw [if_pos hwait, if_pos hwait]
        exact .inl ⟨rfl, rfl, rfl, rfl, rfl⟩
      · rw [if_neg hwait, if_neg hwait]
        refine .inr ⟨entry, rest, rfl, rfl, ?_⟩
        split
        · exact .inr rfl
        · exact .inl rfl

theorem turn_spec {session : Session} {events : ConsumerEvents} (hinv : SessionInv session events)
    (reading : Reading) :
    SessionInv (session.turn reading).1 events ∧
      (session.posted reading = none ∧
          (session.turn reading).1.commit events = session.commit events ∨
        ∃ body, session.posted reading = some body ∧
          ((∃ entry saved, Posted session events reading body entry saved) ∨
            ∀ eventId, ((session.turn reading).1.commit events).lookup eventId =
              events.lookup eventId)) := by
  rcases turn_cases session reading with ⟨hposted, hbatch, hlocked, hrest, hevents⟩ |
    ⟨entry, rest, hrest, hposted, hturn | hturn⟩
  · obtain ⟨hnext, hcommit⟩ := hinv.of_events hbatch hlocked hrest hevents
    exact ⟨hnext, .inl ⟨hposted, hcommit⟩⟩
  · have hnext := hinv.attempt hrest reading
    have hleft := hinv.left entry (hrest ▸ List.mem_cons_self)
    have hlocked : entry.1 ∈ session.locked.map Sigma.fst := List.mem_map_of_mem hleft.1
    have hafter : ∀ eventId, ((session.turn reading).1.commit events).lookup eventId =
        if eventId = entry.1 then
          some ((entry.2.startCycle session.consumer).afterDelivery session.consumer
            reading.delivery (session.sending.state.now + reading.untilCheck + reading.untilPost +
              reading.untilOutcome))
        else (session.commit events).lookup eventId := by
      intro eventId
      rw [hturn, hnext.lookup_commit, hinv.lookup_commit]
      simp only [Sending.attempt, Sending.post, lookup_insert_event]
      by_cases hid : eventId = entry.1
      · rw [hid, if_pos hlocked, if_pos rfl, if_pos rfl]
      · rw [if_neg hid, if_neg hid]
    refine ⟨hturn ▸ hnext, .inr ⟨_, hposted, .inl ⟨entry, _, ⟨startCycle_payload _ _, ?_,
      (afterDelivery_payload _ _ _ _).trans (startCycle_payload _ _),
      fun hfails => afterDelivery_undelivered _ _ hfails _, hafter⟩⟩⟩⟩
    rw [hinv.lookup_commit, if_pos hlocked]
    exact hleft.2
  · obtain ⟨hnext, hcommit⟩ := hinv.rollBack hrest
      (session.sending.post session.consumer session.batch reading entry)
    rw [hturn]
    exact ⟨hnext, .inr ⟨_, hposted, .inr hcommit⟩⟩

/-- Turn by turn the loop does what a call does at once. -/
theorem sending_loop (readings : Nat → Reading) (fuel : Nat) (session : Session)
    (hfuel : session.rest.length < fuel) :
    (session.loop readings fuel).sending = sendBatch session.consumer session.maxEvents readings
      session.batch session.rest session.sending := by
  induction fuel generalizing session with
  | zero => exact absurd hfuel (Nat.not_lt_zero _)
  | succ fuel ih =>
      obtain ⟨consumer, maxEvents, batch, locked, rest, sending⟩ := session
      cases rest with
      | nil => rfl
      | cons entry rest =>
          simp only [Session.loop, Session.turn, sendBatch]
          by_cases hlimit : maxEvents.any fun limit => limit ≤ sending.cnt
          · rw [if_pos hlimit, if_pos hlimit]
          rw [if_neg hlimit, if_neg hlimit]
          by_cases hwait : entry.2.handleAt.any fun handleAt =>
              sending.state.now + (readings sending.cnt).untilCheck < handleAt
          · rw [if_pos hwait, if_pos hwait]
          rw [if_neg hwait, if_neg hwait]
          by_cases hunsaved : !(sending.post consumer batch (readings sending.cnt) entry).canSave
              consumer (readings sending.cnt) entry
          · rw [if_pos hunsaved, if_pos hunsaved]
          rw [if_neg hunsaved, if_neg hunsaved]
          cases hsucceeds : (readings sending.cnt).delivery.succeeds with
          | false => rfl
          | true => exact ih _ (Nat.lt_of_succ_lt_succ hfuel)

/-- A call changes the rows that it has read. -/
theorem sendBatch_others (consumer : Consumer) (maxEvents : Option Nat) (readings : Nat → Reading)
    (batch : ConsumerEvents) {rest : List QueuedEvent} {eventId : Nat}
    (hothers : ∀ entry ∈ rest, entry.1 ≠ eventId) {sending : Sending}
    (hsending : sending.state.events.lookup eventId = batch.lookup eventId) :
    (sendBatch consumer maxEvents readings batch rest sending).state.events.lookup eventId =
      batch.lookup eventId := by
  induction rest generalizing sending with
  | nil => exact hsending
  | cons entry rest ih =>
      obtain ⟨hentry, hrest⟩ := List.forall_mem_cons.mp hothers
      have hattempt : ∀ reading,
          (sending.attempt consumer batch reading entry).state.events.lookup eventId =
            batch.lookup eventId :=
        fun _ => (AList.lookup_insert_ne hentry.symm).trans hsending
      simp only [sendBatch]
      split
      · exact hsending
      · split
        · exact hsending
        · split
          · rfl
          · split
            · exact ih hrest (hattempt _)
            · exact hattempt _

theorem loop_inv (readings : Nat → Reading) (fuel : Nat) {session : Session}
    {events : ConsumerEvents} (hinv : SessionInv session events) :
    SessionInv (session.loop readings fuel) events ∧
      (session.loop readings fuel).locked = session.locked := by
  induction fuel generalizing session with
  | zero => exact ⟨hinv, rfl⟩
  | succ fuel ih =>
      have hnext := (turn_spec hinv (readings session.sending.cnt)).1
      have hlocked : (session.turn (readings session.sending.cnt)).1.locked = session.locked := by
        rcases turn_cases session (readings session.sending.cnt) with ⟨-, -, hlocked, -⟩ |
          ⟨_, _, -, -, hturn | hturn⟩
        · exact hlocked
        · rw [hturn]
        · rw [hturn]
      rw [Session.loop]
      rcases hturn : session.turn (readings session.sending.cnt) with ⟨next, stops⟩
      rw [hturn] at hnext hlocked
      cases stops with
      | true => exact ⟨hnext, hlocked⟩
      | false => exact ⟨(ih hnext).1, (ih hnext).2.trans hlocked⟩

/-- A transaction that nothing interrupts stores what a call of `try_send_events` stores. -/
theorem commit_loop (consumer : Consumer) (maxEvents : Option Nat) (readings : Nat → Reading)
    (state : QueueState) :
    let session := Session.start consumer maxEvents state.now state.events
    let after := session.loop readings (session.rest.length + 1)
    after.sending = trySendEvents consumer maxEvents readings state ∧
      ∀ eventId, (after.commit state.events).lookup eventId =
        (trySendEvents consumer maxEvents readings state).state.events.lookup eventId := by
  have hsending := sending_loop readings _
    (Session.start consumer maxEvents state.now state.events) (Nat.lt_succ_self _)
  obtain ⟨hinv, hlocked⟩ := loop_inv readings
    ((Session.start consumer maxEvents state.now state.events).rest.length + 1)
    (sessionInv_start consumer maxEvents state.now state.events)
  refine ⟨hsending, fun eventId => ?_⟩
  rw [hinv.lookup_commit, hlocked, hsending]
  split
  · rfl
  · next hmem =>
      have hothers : ∀ entry ∈ readBatch consumer.mode maxEvents state.events,
          entry.1 ≠ eventId := fun entry hentry heq =>
        hmem (heq ▸ List.mem_map_of_mem (f := Sigma.fst) hentry)
      exact (sendBatch_others consumer maxEvents readings state.events hothers rfl).symm

end Sessions

end DataPointEvents

end NFCompose
