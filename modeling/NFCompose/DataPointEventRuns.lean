/-
No change of a data point goes unnoticed: in every run, what a consumer has not read since it
changed is named by an event that is still to be delivered to it.
-/
import NFCompose.DataPointEventSessions

namespace NFCompose

namespace DataPointEvents

open Announcements Runs

universe u

variable {V : Type u}

section Storage

/-- What is shown is what the list of the data points has. -/
theorem shown_eq_some (ds : DataSeries) (storage : StorageState V) (id : DataPointId)
    (dataPoint : DataPoint V) : shown ds storage id = some dataPoint ↔
      dataPoint ∈ materializedDataPoints ds none storage.materialized ∧ dataPoint.id = id := by
  have hbounds : ∀ row : MatRow V, InBounds none none row.pointInTime := fun row => by
    simp [InBounds]
  simp only [shown, Option.bind_eq_some_iff, materializedDataPoints, List.mem_map]
  constructor
  · rintro ⟨row, hrow, hshown⟩
    split at hshown
    · next hdeleted =>
        cases hshown
        exact ⟨⟨(id, row), mem_materializedRows.mpr ⟨hrow, hdeleted, hbounds row⟩, rfl⟩, rfl⟩
    · cases hshown
  · rintro ⟨⟨⟨key, row⟩, hmem, rfl⟩, rfl⟩
    obtain ⟨hrow, hdeleted, -⟩ := mem_materializedRows.mp hmem
    exact ⟨row, hrow, if_pos hdeleted⟩

theorem on_eq_none {request : Modification V} {id : DataPointId}
    (hlisted : id ∉ (listedDataPoints request).map Prod.fst) : request.on id = none := by
  cases request with
  | write write =>
      rw [listedDataPoints, List.map_map] at hlisted
      rw [Modification.on, Option.map_eq_none_iff, List.find?_eq_none]
      intro data hdata hid
      exact hlisted (List.mem_map.mpr ⟨data, hdata, of_decide_eq_true hid⟩)
  | delete deletion =>
      rw [Modification.on, if_neg]
      rintro rfl
      exact hlisted (List.mem_singleton_self _)

/-- A request changes what it lists. -/
theorem shown_modify [UploadedFile V] (ds : DataSeries) (storage : StorageState V)
    {request : Modification V} {id : DataPointId}
    (hlisted : id ∉ (listedDataPoints request).map Prod.fst) :
    shown ds (modify ds storage request) id = shown ds storage id := by
  have hpoint := point_modify ds id storage request
  rw [on_eq_none hlisted] at hpoint
  have hrow : (modify ds storage request).materialized.lookup id =
      storage.materialized.lookup id := congrArg PointState.row hpoint
  rw [shown, shown, hrow]

/-- What a prune removes was not shown any more. -/
theorem shown_pruneHistory (ds : DataSeries) (olderThan now : Int) (storage : StorageState V)
    (id : DataPointId) : shown ds (pruneHistory ds olderThan now storage) id =
      shown ds storage id := by
  have hpruned : ∀ row : MatRow V, row.deletedAt = none → ¬ row.DeletedBefore olderThan := by
    rintro row hdeleted ⟨deletedAt, hmem, -⟩
    rw [hdeleted] at hmem
    cases hmem
  have htable : ((prunedTable olderThan storage.materialized).lookup id).bind (fun row =>
      if row.deletedAt = none then some (row.dataPoint ds id) else none) = shown ds storage id := by
    refine Option.ext fun dataPoint => ?_
    simp only [shown, Option.bind_eq_some_iff, lookup_prunedTable]
    constructor
    · rintro ⟨row, ⟨hrow, -⟩, hshown⟩
      exact ⟨row, hrow, hshown⟩
    · rintro ⟨row, hrow, hshown⟩
      refine ⟨row, ⟨hrow, hpruned row ?_⟩, hshown⟩
      by_contra hdeleted
      rw [if_neg hdeleted] at hshown
      cases hshown
  rw [← htable]
  unfold pruneHistory
  split
  · rfl
  · rfl
  · exact htable.symm

end Storage

section Invariant

variable {format : PayloadFormat} {store : DataPointId → Option (DataPoint V)} {bound : Nat}
  {consumer : ConsumerState V}

/-- The events as the open transaction leaves them if it is committed. -/
def ConsumerState.current (consumer : ConsumerState V) : ConsumerEvents :=
  consumer.session.elim consumer.events fun session => session.commit consumer.events

/-- Where a consumer that has read everything is behind, an event says so. -/
structure ConsumerInv (format : PayloadFormat) (store : DataPointId → Option (DataPoint V))
    (bound : Nat) (consumer : ConsumerState V) : Prop where
  ids : ∀ eventId ∈ consumer.events, eventId < bound
  session : ∀ session ∈ consumer.session, SessionInv session consumer.events
  announced : consumer.hasRead = true →
    Announced consumer.known store (Undelivered format consumer.current)

def FeedInv (format : PayloadFormat) (ds : DataSeries) (state : SeriesState V) : Prop :=
  ∀ consumerId consumer, state.consumers.lookup consumerId = some consumer →
    ConsumerInv format (shown ds state.storage) state.nextEventId consumer

/-- The same holds of what is committed alone. -/
theorem ConsumerInv.committed (hinv : ConsumerInv format store bound consumer)
    (hread : consumer.hasRead = true) :
    Announced consumer.known store (Undelivered format consumer.events) := by
  refine (hinv.announced hread).mono fun id hundelivered => ?_
  rw [ConsumerState.current] at hundelivered
  cases hsession : consumer.session with
  | none => rwa [hsession] at hundelivered
  | some session =>
      rw [hsession] at hundelivered
      exact (hinv.session session hsession).undelivered_of_commit hundelivered

theorem lookup_current_insert {eventId : Nat}
    (hsession : ∀ session ∈ consumer.session, SessionInv session consumer.events)
    (hfresh : eventId ∉ consumer.events) (event : ConsumerEvent) (id : Nat) :
    (ConsumerState.current
      { consumer with events := consumer.events.insert eventId event }).lookup id =
        if id = eventId then some event else consumer.current.lookup id := by
  simp only [ConsumerState.current]
  cases hopen : consumer.session with
  | none => exact lookup_insert_event _ _ _ _
  | some session =>
      have hinv := hsession session hopen
      rw [Option.elim_some, Option.elim_some, (hinv.insert hfresh event).lookup_commit,
        hinv.lookup_commit, lookup_insert_event]
      by_cases hmem : id ∈ session.locked.map Sigma.fst
      · obtain ⟨entry, hentry, rfl⟩ := List.mem_map.mp hmem
        have hne : entry.1 ≠ eventId := fun heq =>
          hfresh (heq ▸ mem_of_lookup_events (hinv.held entry hentry).1)
        rw [if_pos hmem, if_neg hne, if_pos hmem]
      · rw [if_neg hmem, if_neg hmem]

theorem mem_of_lookup_current {eventId : Nat} {event : ConsumerEvent}
    (hsession : ∀ session ∈ consumer.session, SessionInv session consumer.events)
    (hlookup : consumer.current.lookup eventId = some event) : eventId ∈ consumer.events := by
  rw [ConsumerState.current] at hlookup
  cases hopen : consumer.session with
  | none =>
      rw [hopen] at hlookup
      exact mem_of_lookup_events hlookup
  | some session =>
      rw [hopen] at hlookup
      exact (hsession session hopen).mem_of_lookup_commit hlookup

/-- The event of a change is stored under a fresh id. -/
theorem ConsumerInv.create {before : DataPointId → Option (DataPoint V)} {payload : EventPayload}
    {event : ConsumerEvent} {eventId next : Nat} (hinv : ConsumerInv format before bound consumer)
    (hframe : ∀ id, ¬ payload.Names id → store id = before id)
    (hloads : format.loads event.payload = some payload) (hnew : event.state ≠ .success)
    (hbound : bound ≤ eventId) (hnext : eventId < next) :
    ConsumerInv format store next
      { consumer with events := consumer.events.insert eventId event } := by
  obtain ⟨hids, hsession, hannounced⟩ := hinv
  have hfresh : eventId ∉ consumer.events := fun hmem =>
    absurd (hids eventId hmem) (Nat.not_lt.mpr hbound)
  have hcurrent := lookup_current_insert hsession hfresh event
  refine ⟨fun id hid => ?_, fun session hmem => (hsession session hmem).insert hfresh event,
    fun hread => (hannounced hread).change hframe (fun id hnames => ?_) fun id hid => ?_⟩
  · rcases (AList.mem_insert _).mp hid with rfl | hid
    · exact hnext
    · exact ((hids id hid).trans_le hbound).trans hnext
  · exact ⟨eventId, event, payload, (hcurrent eventId).trans (if_pos rfl), hnew, hloads, hnames⟩
  · obtain ⟨oldId, old, oldPayload, hold, hrest⟩ := hid
    have hne : oldId ≠ eventId := fun heq => hfresh (heq ▸ mem_of_lookup_current hsession hold)
    exact ⟨oldId, old, oldPayload, ((hcurrent oldId).trans (if_neg hne)).trans hold, hrest⟩

/-- What the creation of an event comes to, for the consumers with the keys. -/
structure Created (event : ConsumerEvent) (keys : List Uuid) (state next : SeriesState V) :
    Prop where
  storage : next.storage = state.storage
  bound : state.nextEventId ≤ next.nextEventId
  consumers : ∀ consumerId consumer, next.consumers.lookup consumerId = some consumer →
    if consumerId ∈ keys then
      ∃ before eventId, state.consumers.lookup consumerId = some before ∧
        state.nextEventId ≤ eventId ∧ eventId < next.nextEventId ∧
        consumer = { before with events := before.events.insert eventId event }
    else state.consumers.lookup consumerId = some consumer

theorem lookup_createEvent (event : ConsumerEvent) (state : SeriesState V) (key consumerId : Uuid) :
    (createEvent event state key).consumers.lookup consumerId =
      if consumerId = key then (state.consumers.lookup key).map fun consumer =>
        { consumer with events := consumer.events.insert state.nextEventId event }
      else state.consumers.lookup consumerId := by
  by_cases heq : consumerId = key
  · subst heq
    rw [if_pos rfl, createEvent]
    cases hlookup : state.consumers.lookup consumerId with
    | none => exact hlookup
    | some consumer => exact AList.lookup_insert _
  · rw [if_neg heq, createEvent]
    cases state.consumers.lookup key with
    | none => rfl
    | some consumer => exact AList.lookup_insert_ne heq

theorem created_createEvent (event : ConsumerEvent) (state : SeriesState V) (key : Uuid) :
    Created event [key] state (createEvent event state key) := by
  have hbound : state.nextEventId ≤ (createEvent event state key).nextEventId ∧
      ∀ consumer, state.consumers.lookup key = some consumer →
        state.nextEventId < (createEvent event state key).nextEventId := by
    rw [createEvent]
    cases state.consumers.lookup key with
    | none => exact ⟨le_rfl, fun _ h => nomatch h⟩
    | some consumer => exact ⟨Nat.le_succ _, fun _ _ => Nat.lt_succ_self _⟩
  refine ⟨?_, hbound.1, fun consumerId consumer hconsumer => ?_⟩
  · rw [createEvent]
    split <;> rfl
  · rw [lookup_createEvent] at hconsumer
    by_cases heq : consumerId = key
    · subst heq
      rw [if_pos rfl, Option.map_eq_some_iff] at hconsumer
      obtain ⟨before, hbefore, rfl⟩ := hconsumer
      rw [if_pos List.mem_cons_self]
      exact ⟨before, state.nextEventId, hbefore, le_rfl, hbound.2 before hbefore, rfl⟩
    · rw [if_neg heq] at hconsumer
      rwa [if_neg (by simpa using heq)]

theorem Created.trans {event : ConsumerEvent} {key : Uuid} {keys : List Uuid}
    {state middle next : SeriesState V} (hkey : key ∉ keys)
    (hfirst : Created event [key] state middle) (hrest : Created event keys middle next) :
    Created event (key :: keys) state next := by
  refine ⟨hrest.storage.trans hfirst.storage, hfirst.bound.trans hrest.bound,
    fun consumerId consumer hconsumer => ?_⟩
  have hlast := hrest.consumers consumerId consumer hconsumer
  by_cases hmem : consumerId ∈ keys
  · have hne : consumerId ∉ [key] := fun hsame => hkey (List.mem_singleton.mp hsame ▸ hmem)
    rw [if_pos hmem] at hlast
    obtain ⟨before, eventId, hbefore, hge, hlt, heq⟩ := hlast
    have hold := hfirst.consumers consumerId before hbefore
    rw [if_neg hne] at hold
    rw [if_pos (List.mem_cons_of_mem _ hmem)]
    exact ⟨before, eventId, hold, hfirst.bound.trans hge, hlt, heq⟩
  · rw [if_neg hmem] at hlast
    have hold := hfirst.consumers consumerId consumer hlast
    by_cases hsame : consumerId ∈ [key]
    · rw [if_pos hsame] at hold
      obtain ⟨before, eventId, hbefore, hge, hlt, heq⟩ := hold
      rw [if_pos (List.mem_singleton.mp hsame ▸ List.mem_cons_self)]
      exact ⟨before, eventId, hbefore, hge, hlt.trans_le hrest.bound, heq⟩
    · rw [if_neg hsame] at hold
      rwa [if_neg (List.mem_cons.not.mpr
        (not_or.mpr ⟨fun heq => hsame (List.mem_singleton.mpr heq), hmem⟩))]

/-- Every consumer gets one event of its own. -/
theorem created_createEvents (event : ConsumerEvent) (state : SeriesState V) :
    Created event state.consumers.keys state (createEvents event state) := by
  have hfold : ∀ keys : List Uuid, keys.Nodup → ∀ state : SeriesState V,
      Created event keys state (keys.foldl (createEvent event) state) := by
    intro keys
    induction keys with
    | nil => exact fun _ _ => ⟨rfl, le_rfl, fun _ _ hconsumer => hconsumer⟩
    | cons key keys ih =>
        intro hnodup state
        obtain ⟨hkey, hkeys⟩ := List.nodup_cons.mp hnodup
        exact (created_createEvent event state key).trans hkey (ih hkeys _)
  exact hfold _ state.consumers.keys_nodup state

/-- The creation of the event of a change keeps the invariant. -/
theorem FeedInv.create {ds : DataSeries} {state : SeriesState V}
    (before : Uuid → ConsumerState V → DataPointId → Option (DataPoint V))
    {payload : EventPayload} {event : ConsumerEvent}
    (hconsumers : ∀ consumerId consumer, state.consumers.lookup consumerId = some consumer →
      ConsumerInv format (before consumerId consumer) state.nextEventId consumer ∧
        ∀ id, ¬ payload.Names id → shown ds state.storage id = before consumerId consumer id)
    (hloads : format.loads event.payload = some payload) (hnew : event.state ≠ .success) :
    FeedInv format ds (createEvents event state) := by
  obtain ⟨hstorage, -, hcreated⟩ := created_createEvents event state
  intro consumerId consumer hconsumer
  have hlookup := hcreated consumerId consumer hconsumer
  rw [hstorage]
  split at hlookup
  · obtain ⟨old, eventId, hold, hge, hlt, rfl⟩ := hlookup
    obtain ⟨hinv, hframe⟩ := hconsumers consumerId old hold
    exact hinv.create hframe hloads hnew hge hlt
  · next hmem =>
      exact absurd (AList.mem_keys.mp (AList.lookup_isSome.mp (hlookup ▸ rfl))) hmem

/-- An event that is delivered has had its data points read; one that is not stays. -/
theorem Posted.announced {session : Session} {events : ConsumerEvents} {reading : Reading}
    {body : EventBody} {entry : QueuedEvent} {saved : ConsumerEvent} {known : DataPointId →
    Option (DataPoint V)} (hposted : Posted session events reading body entry saved)
    (hannounced : Announced known store (Undelivered format (session.commit events)))
    (arrives : Bool) :
    Announced (if reading.delivery.succeeds || arrives then receive format store known body
        else known) store (Undelivered format ((session.turn reading).1.commit events)) := by
  -- an event other than the one at the head is as it was
  have hothers : ∀ id, Undelivered format (session.commit events) id →
      (reading.delivery.succeeds = true → ∀ payload, format.loads body.payload = some payload →
        ¬ payload.Names id) →
      Undelivered format ((session.turn reading).1.commit events) id := by
    rintro id ⟨eventId, event, payload, hevent, hstate, hloads, hnames⟩ hnot
    by_cases hid : eventId = entry.1
    · subst hid
      have hevent := Option.some.inj (hevent.symm.trans hposted.before)
      subst hevent
      have hfails : reading.delivery.succeeds = false := by
        refine Bool.eq_false_iff.mpr fun hsucceeds => ?_
        exact hnot hsucceeds payload (hposted.body_payload ▸ hloads) hnames
      exact ⟨entry.1, saved, payload, (hposted.after _).trans (if_pos rfl),
        hposted.undelivered hfails, hposted.payload_eq ▸ hloads, hnames⟩
    · exact ⟨eventId, event, payload, ((hposted.after _).trans (if_neg hid)).trans hevent, hstate,
        hloads, hnames⟩
  by_cases harrived : reading.delivery.succeeds || arrives
  · rw [if_pos harrived, receive]
    cases hloads : format.loads body.payload with
    | none =>
        refine hannounced.mono fun id hid => hothers id hid fun _ payload hpayload => ?_
        rw [hloads] at hpayload
        cases hpayload
    | some payload =>
        refine hannounced.reread fun id hnames hid => hothers id hid fun _ other hother => ?_
        rwa [← Option.some.inj (hloads.symm.trans hother)]
  · rw [if_neg harrived]
    refine hannounced.mono fun id hid => hothers id hid fun hsucceeds => ?_
    rw [hsucceeds] at harrived
    exact absurd rfl harrived

/-- A consumer that reads again is not further behind. -/
theorem announced_receive {known : DataPointId → Option (DataPoint V)}
    {covered : DataPointId → Prop} (hannounced : Announced known store covered)
    (body : EventBody) (arrived : Bool) :
    Announced (if arrived then receive format store known body else known) store covered := by
  cases arrived with
  | false => exact hannounced
  | true =>
      rw [if_pos rfl, DataPointEvents.receive]
      split
      · exact hannounced
      · exact Announced.reread hannounced fun _ _ hcovered => hcovered

theorem ConsumerInv.turn {session : Session} (hinv : ConsumerInv format store bound consumer)
    (hopen : consumer.session = some session) (reading : Reading) (arrives : Bool) :
    ConsumerInv format store bound (consumer.turn format store reading arrives session) := by
  obtain ⟨hids, hsession, hannounced⟩ := hinv
  obtain ⟨hnext, hcases⟩ := turn_spec (hsession session hopen) reading
  have hcurrent : consumer.current = session.commit consumer.events := by
    rw [ConsumerState.current, hopen]
    rfl
  rw [hcurrent] at hannounced
  have hknown : consumer.hasRead = true →
      Announced ((session.posted reading).elim consumer.known fun body =>
        if reading.delivery.succeeds || arrives then receive format store consumer.known body
        else consumer.known) store
        (Undelivered format ((session.turn reading).1.commit consumer.events)) := by
    intro hread
    rcases hcases with ⟨hposted, hcommit⟩ |
      ⟨body, hposted, ⟨entry, saved, hturn⟩ | hcommit⟩
    · rw [hposted, hcommit]
      exact hannounced hread
    · rw [hposted]
      exact hturn.announced (hannounced hread) arrives
    · -- what the transaction has delivered before is undelivered again
      rw [hposted]
      refine (announced_receive (hannounced hread) body _).mono fun id hid => ?_
      exact undelivered_congr hcommit
        ((hsession session hopen).undelivered_of_commit hid)
  unfold ConsumerState.turn
  rcases hturn : session.turn reading with ⟨next, stops⟩
  rw [hturn] at hnext hknown
  cases stops with
  | false => exact ⟨hids, fun other hother => Option.some.inj hother ▸ hnext, hknown⟩
  | true =>
      refine ⟨fun eventId hmem => ?_, fun other hother => (nomatch hother), hknown⟩
      obtain ⟨event, hevent⟩ := Option.isSome_iff_exists.mp (AList.lookup_isSome.mpr hmem)
      exact hids eventId (hnext.mem_of_lookup_commit hevent)

/-- A step of one consumer keeps the invariant if its change does. -/
theorem FeedInv.update {ds : DataSeries} {state : SeriesState V} (hinv : FeedInv format ds state)
    (consumerId : Uuid) {change : ConsumerState V → ConsumerState V}
    (hchange : ∀ consumer, state.consumers.lookup consumerId = some consumer →
      ConsumerInv format (shown ds state.storage) state.nextEventId consumer →
      ConsumerInv format (shown ds state.storage) state.nextEventId (change consumer)) :
    FeedInv format ds (updateConsumerState consumerId change state) := by
  rw [updateConsumerState]
  cases hlookup : state.consumers.lookup consumerId with
  | none => exact hinv
  | some consumer =>
      intro otherId other hother
      by_cases hid : otherId = consumerId
      · subst hid
        rw [← Option.some.inj ((AList.lookup_insert _).symm.trans hother)]
        exact hchange consumer hlookup (hinv otherId consumer hlookup)
      · exact hinv otherId other ((AList.lookup_insert_ne hid).symm.trans hother)

/-- Of the old events only those that were delivered are deleted. -/
theorem ConsumerInv.deleteOldEvents (hinv : ConsumerInv format store bound consumer)
    (now : Instant) (hdelivered : ∀ entry ∈ consumer.events.entries,
      ConsumerEvent.IsOld now entry.2 → entry.2.state = .success) :
    ConsumerInv format store bound { consumer with
      events := KeyedTable.deleteWhere (fun _ event => ConsumerEvent.IsOld now event)
        consumer.events } := by
  obtain ⟨hids, hsession, hannounced⟩ := hinv
  have hkept : ∀ eventId event, consumer.events.lookup eventId = some event →
      ¬ ConsumerEvent.IsOld now event →
      (KeyedTable.deleteWhere (fun _ event => ConsumerEvent.IsOld now event)
        consumer.events).lookup eventId = some event := fun eventId event hevent hold =>
    (KeyedTable.lookup_deleteWhere _ _).mpr ⟨hevent, decide_eq_false hold⟩
  have hsessionNext : ∀ session ∈ consumer.session, SessionInv session
      (KeyedTable.deleteWhere (fun _ event => ConsumerEvent.IsOld now event) consumer.events) := by
    intro session hmem
    obtain ⟨hbatch, hheld, hsaved, hleft, hdistinct⟩ := hsession session hmem
    refine ⟨hbatch, fun entry hentry => ?_, hsaved, hleft, hdistinct⟩
    obtain ⟨hlookup, hpending⟩ := hheld entry hentry
    exact ⟨hkept entry.1 entry.2 hlookup fun hold => hpending hold.1, hpending⟩
  refine ⟨fun eventId hmem => ?_, hsessionNext, fun hread => (hannounced hread).mono ?_⟩
  · obtain ⟨event, hevent⟩ := Option.isSome_iff_exists.mp (AList.lookup_isSome.mpr hmem)
    exact hids eventId (mem_of_lookup_events ((KeyedTable.lookup_deleteWhere _ _).mp hevent).1)
  · rintro id ⟨eventId, event, payload, hevent, hstate, hrest⟩
    refine ⟨eventId, event, payload, ?_, hstate, hrest⟩
    have hcommitted : consumer.events.lookup eventId = some event →
        (KeyedTable.deleteWhere (fun _ event => ConsumerEvent.IsOld now event)
          consumer.events).lookup eventId = some event := fun hlookup =>
      hkept eventId event hlookup fun hold =>
        hstate (hdelivered ⟨eventId, event⟩ (KeyedTable.mem_entries_iff.mpr hlookup) hold)
    simp only [ConsumerState.current] at hevent ⊢
    cases hopen : consumer.session with
    | none =>
        rw [hopen] at hevent
        exact hcommitted hevent
    | some session =>
        rw [hopen, Option.elim_some, (hsession session hopen).lookup_commit] at hevent
        rw [Option.elim_some, (hsessionNext session hopen).lookup_commit]
        split at hevent
        · next hmem => rwa [if_pos hmem]
        · next hmem =>
            rw [if_neg hmem]
            exact hcommitted hevent

/-- The step deletes no event that was given up. -/
def KeepsFailed (state : SeriesState V) : FeedAction V → Prop
  | .deleteOldEvents consumerId now => ∀ consumer ∈ state.consumers.lookup consumerId,
      ∀ entry ∈ consumer.events.entries, ConsumerEvent.IsOld now entry.2 →
        entry.2.state = .success
  | _ => True

instance (state : SeriesState V) : (action : FeedAction V) → Decidable (KeepsFailed state action)
  | .deleteOldEvents _ _ => inferInstanceAs (Decidable (∀ consumer ∈ _, _))
  | .modify _ | .truncate .. | .pruneHistory .. | .createConsumer .. | .updateConsumer ..
  | .hardDeleteConsumer _ | .readAll _ | .beginSending .. | .turn .. | .rollBack _ =>
      inferInstanceAs (Decidable True)

/-- Consumers read back what the JSON text of the step's events was made of, and the step
deletes no event that was given up. -/
def Reliable (format : PayloadFormat) (ds : DataSeries) (dataSeriesExternalId : ExternalId)
    (state : SeriesState V) (action : FeedAction V) : Prop :=
  (∀ payload ∈ payloadOf ds dataSeriesExternalId action,
    format.loads (format.dumps payload) = some payload) ∧ KeepsFailed state action

instance (format : PayloadFormat) (ds : DataSeries) (dataSeriesExternalId : ExternalId)
    (state : SeriesState V) (action : FeedAction V) :
    Decidable (Reliable format ds dataSeriesExternalId state action) :=
  inferInstanceAs (Decidable (_ ∧ _))

theorem locked_eq_nil {session : Session} (hopen : consumer.session = some session)
    (hholds : consumer.holdsLocks = false) : session.locked = [] := by
  rw [ConsumerState.holdsLocks, hopen] at hholds
  simpa using hholds

/-- Without a lock the events may be deleted under the session. -/
theorem ConsumerInv.truncate (hinv : ConsumerInv format store bound consumer)
    (hholds : consumer.holdsLocks = false) :
    ConsumerInv format consumer.known bound { consumer with events := ∅ } := by
  refine ⟨fun eventId hmem => (nomatch hmem), fun session hmem => ?_, fun _ =>
    announced_self _ _⟩
  have hlocked := locked_eq_nil hmem hholds
  obtain ⟨-, -, -, hleft, hdistinct⟩ := hinv.session session hmem
  exact ⟨by simp [hlocked], by simp [hlocked], by simp [hlocked], hleft, hdistinct⟩

variable [UploadedFile V]

/-- Every step keeps every consumer informed. -/
theorem feedStep_inv (format : PayloadFormat) (ds : DataSeries)
    (dataSeriesExternalId : ExternalId) {state : SeriesState V} {action : FeedAction V}
    (hinv : FeedInv format ds state)
    (hreliable : Reliable format ds dataSeriesExternalId state action) :
    FeedInv format ds (feedStep format ds dataSeriesExternalId state action) := by
  obtain ⟨hloads, hkeeps⟩ := hreliable
  cases action with
  | modify request =>
      refine FeedInv.create (fun _ _ => shown ds state.storage)
        (fun consumerId consumer hconsumer => ⟨hinv consumerId consumer hconsumer,
          fun id hnames => shown_modify ds state.storage fun hmem => hnames ?_⟩)
        (hloads _ rfl) (by simp [dataPointEvent])
      intro dataPoints hpoints
      exact Option.some.inj hpoints ▸ hmem
  | truncate deletedAt pointInTime subClock =>
      simp only [feedStep]
      split
      · exact hinv
      · next hwaits =>
          have hfree : ∀ consumerId consumer,
              ⟨consumerId, consumer⟩ ∈ state.consumers.entries → consumer.holdsLocks = false := by
            simpa using hwaits
          refine FeedInv.create (fun _ consumer => consumer.known)
            (fun consumerId consumer hconsumer => ?_) (hloads _ rfl)
            (by simp [dataPointEvent])
          simp only [truncateEvents, KeyedTable.lookup_mapRows, Option.map_eq_some_iff] at hconsumer
          obtain ⟨old, hold, rfl⟩ := hconsumer
          refine ⟨(hinv consumerId old hold).truncate
            (hfree consumerId old (KeyedTable.mem_entries_iff.mpr hold)), fun id hnames => ?_⟩
          exact absurd (fun dataPoints hpoints => (nomatch hpoints)) hnames
  | pruneHistory olderThan now =>
      intro consumerId consumer hconsumer
      have hsame : shown ds (pruneHistory ds olderThan now state.storage) =
          shown ds state.storage := funext (shown_pruneHistory ds olderThan now state.storage)
      exact hsame ▸ hinv consumerId consumer hconsumer
  | createConsumer consumerId settings =>
      simp only [feedStep]
      split
      · exact hinv
      · intro otherId other hother
        by_cases hid : otherId = consumerId
        · subst hid
          rw [← Option.some.inj ((AList.lookup_insert _).symm.trans hother)]
          exact ⟨fun _ hmem => (nomatch hmem), fun _ hmem => (nomatch hmem),
            fun hread => (nomatch hread)⟩
        · exact hinv otherId other ((AList.lookup_insert_ne hid).symm.trans hother)
  | updateConsumer consumerId settings =>
      exact hinv.update consumerId fun consumer _ hconsumer =>
        ⟨hconsumer.ids, hconsumer.session, hconsumer.announced⟩
  | hardDeleteConsumer consumerId =>
      simp only [feedStep]
      split
      · exact hinv
      · intro otherId other hother
        have hne : otherId ≠ consumerId := by
          rintro rfl
          rw [AList.lookup_erase] at hother
          cases hother
        exact hinv otherId other ((AList.lookup_erase_ne hne).symm.trans hother)
  | readAll consumerId =>
      exact hinv.update consumerId fun consumer _ hconsumer =>
        ⟨hconsumer.ids, hconsumer.session, fun _ => announced_self _ _⟩
  | beginSending consumerId maxEvents now =>
      refine hinv.update consumerId fun consumer _ hconsumer => ?_
      by_cases hopen : consumer.session.isSome
      · rwa [if_pos hopen]
      · rw [if_neg hopen]
        have hnone := Option.not_isSome_iff_eq_none.mp hopen
        refine ⟨hconsumer.ids, fun session hmem => Option.some.inj hmem ▸
          sessionInv_start _ _ _ _, fun hread => (hconsumer.announced hread).mono fun id =>
            undelivered_congr fun eventId => ?_⟩
        simp only [ConsumerState.current, hnone, Option.elim_some, Option.elim_none]
        exact lookup_commit_start _ _ _ _ eventId
  | turn consumerId reading arrives =>
      refine hinv.update consumerId fun consumer _ hconsumer => ?_
      cases hopen : consumer.session with
      | none => exact hconsumer
      | some session => exact hconsumer.turn hopen reading arrives
  | rollBack consumerId =>
      exact hinv.update consumerId fun consumer _ hconsumer =>
        ⟨hconsumer.ids, fun _ hmem => (nomatch hmem), fun hread => hconsumer.committed hread⟩
  | deleteOldEvents consumerId now =>
      exact hinv.update consumerId fun consumer hlookup hconsumer =>
        hconsumer.deleteOldEvents now (hkeeps consumer hlookup)

/-- In every run, a data point that a consumer has not read since it changed is named by an
event that is not delivered yet; with every event delivered the consumer knows what there is. -/
theorem changes_are_announced (format : PayloadFormat) (ds : DataSeries)
    (dataSeriesExternalId : ExternalId) (storage : StorageState V) (nextEventId : Nat)
    (actions : List (FeedAction V))
    (hreliable : AllSteps (feedStep format ds dataSeriesExternalId)
      (Reliable format ds dataSeriesExternalId) ⟨storage, ∅, nextEventId⟩ actions)
    (consumerId : Uuid) (consumer : ConsumerState V)
    (hconsumer : (run (feedStep format ds dataSeriesExternalId) ⟨storage, ∅, nextEventId⟩
      actions).consumers.lookup consumerId = some consumer) (hread : consumer.hasRead = true) :
    let store := shown ds (run (feedStep format ds dataSeriesExternalId)
      ⟨storage, ∅, nextEventId⟩ actions).storage
    (∀ id, consumer.known id ≠ store id → Undelivered format consumer.events id) ∧
      ((∀ eventId event, consumer.events.lookup eventId = some event → event.state = .success) →
        consumer.known = store) := by
  have hinit : FeedInv (V := V) format ds ⟨storage, ∅, nextEventId⟩ :=
    fun _ _ hlookup => (nomatch hlookup)
  have hinv := run_invariant (FeedInv format ds)
    (fun _ _ hstate hstep => feedStep_inv format ds dataSeriesExternalId hstate hstep) hinit
    hreliable
  have hannounced := (hinv consumerId consumer hconsumer).committed hread
  refine ⟨hannounced, fun hdelivered => hannounced.eq fun id => ?_⟩
  rintro ⟨eventId, event, payload, hevent, hstate, -⟩
  exact hstate (hdelivered eventId event hevent)

end Invariant

namespace FeedWitness

open ModificationWitness

def settings : Consumer := ⟨"tenant", false, .unknown, .inOrderNonBlocking, 1, 30000000, 0⟩

def changed : EventPayload := ⟨"series", "measurements", some [("point", "external")]⟩

def changedText : String :=
  "\x7b\"data_series\": \x7b\"id\": \"series\", \"external_id\": \"measurements\"\x7d, " ++
    "\"data_points\": [\x7b\"id\": \"point\", \"external_id\": \"external\"\x7d]\x7d"

def format : PayloadFormat where
  dumps payload := if payload = changed then changedText else "null"
  loads text := if text = changedText then some changed else none

def failing : Reading := ⟨0, 0, 1, .raised "timeout"⟩

def accepting : Reading := ⟨0, 0, 1, .answered ⟨"ok", [], 200, none⟩ ""⟩

/-- The point changes again while its first event is sent, and the transaction is lost; in the
end one event is left. -/
def actions : List (FeedAction String) :=
  [.createConsumer "hook" settings, .readAll "hook", .modify (write false [("note", some "a")] 1),
    .beginSending "hook" (some 100) 2, .turn "hook" accepting true,
    .modify (write false [("note", some "b")] 3), .rollBack "hook",
    .beginSending "hook" (some 100) 4, .turn "hook" accepting true, .turn "hook" failing false,
    .modify (delete 5), .deleteOldEvents "hook" 5000000000000]

theorem point_changes_are_announced :
    ∃ consumer, (run (feedStep format (series .dynamicSqlNoHistory) "measurements")
        ⟨.empty [] [], ∅, 0⟩ actions).consumers.lookup "hook" = some consumer ∧
      (∀ id, consumer.known id ≠ shown (series .dynamicSqlNoHistory)
          (run (feedStep format (series .dynamicSqlNoHistory) "measurements")
            ⟨.empty [] [], ∅, 0⟩ actions).storage id → Undelivered format consumer.events id) ∧
      ((∀ eventId event, consumer.events.lookup eventId = some event → event.state = .success) →
        consumer.known = shown (series .dynamicSqlNoHistory)
          (run (feedStep format (series .dynamicSqlNoHistory) "measurements")
            ⟨.empty [] [], ∅, 0⟩ actions).storage) := by
  have hread : ((run (feedStep format (series .dynamicSqlNoHistory) "measurements")
      ⟨.empty [] [], ∅, 0⟩ actions).consumers.lookup "hook").map ConsumerState.hasRead =
        some true := by decide +kernel
  obtain ⟨consumer, hconsumer, hread⟩ := Option.map_eq_some_iff.mp hread
  exact ⟨consumer, hconsumer, changes_are_announced format _ _ _ _ _ (by decide +kernel) "hook"
    consumer hconsumer hread⟩

end FeedWitness

end DataPointEvents

end NFCompose
