/-
The events of a data series: every change of its data points leaves an event for each of its
consumers, in the transaction of the change, and the consumers read again what the events
name.
-/
import NFCompose.Announcements
import NFCompose.EventDelivery
import NFCompose.Prune
import NFCompose.Reads

namespace NFCompose

namespace DataPointEvents

open Announcements

universe u

/-- The payload of an event, without data points where the data series was truncated. -/
structure EventPayload where
  dataSeriesId : Uuid
  dataSeriesExternalId : ExternalId
  dataPoints : Option (List (DataPointId × ExternalId))
deriving DecidableEq, Repr

/-- The event says that the data point may have changed. -/
def EventPayload.Names (payload : EventPayload) (id : DataPointId) : Prop :=
  ∀ dataPoints ∈ payload.dataPoints, id ∈ dataPoints.map Prod.fst

instance (payload : EventPayload) : DecidablePred payload.Names := fun id =>
  match hpoints : payload.dataPoints with
  | none => isTrue fun _ hmem => by simp [hpoints] at hmem
  | some dataPoints => decidable_of_iff (id ∈ dataPoints.map Prod.fst) (by
      simp [EventPayload.Names, hpoints])

/-- The JSON text of a payload, as it is stored and posted, and what a consumer reads of it. -/
structure PayloadFormat where
  dumps : EventPayload → String
  loads : String → Option EventPayload

/-- A transaction of `try_send_events`: the consumer as it was read, the rows that the batch
query has locked, those that are left, and the variables of the loop. -/
structure Session where
  consumer : Consumer
  maxEvents : Option Nat
  batch : ConsumerEvents
  locked : List QueuedEvent
  rest : List QueuedEvent
  sending : Sending

variable {V : Type u}

/-- A consumer of the data series and its events.  What it knows of the data points counts
once it has read all of them. -/
structure ConsumerState (V : Type u) where
  settings : Consumer
  events : ConsumerEvents
  session : Option Session
  known : DataPointId → Option (DataPoint V)
  hasRead : Bool

structure SeriesState (V : Type u) where
  storage : StorageState V
  consumers : AList fun _ : Uuid => ConsumerState V
  nextEventId : Nat

/-- What a read of the data point gives. -/
def shown (ds : DataSeries) (storage : StorageState V) (id : DataPointId) :
    Option (DataPoint V) :=
  (storage.materialized.lookup id).bind fun row =>
    if row.deletedAt = none then some (row.dataPoint ds id) else none

/-- The event of one consumer. -/
def createEvent (event : ConsumerEvent) (state : SeriesState V) (consumerId : Uuid) :
    SeriesState V :=
  match state.consumers.lookup consumerId with
  | none => state
  | some consumer =>
      { state with
        consumers := state.consumers.insert consumerId
          { consumer with events := consumer.events.insert state.nextEventId event }
        nextEventId := state.nextEventId + 1 }

/-- `data_point_event`. -/
def createEvents (event : ConsumerEvent) (state : SeriesState V) : SeriesState V :=
  state.consumers.keys.foldl (createEvent event) state

/-- `truncate_events`. -/
def truncateEvents (state : SeriesState V) : SeriesState V :=
  { state with
    consumers := KeyedTable.mapRows (fun _ consumer => { consumer with events := ∅ })
      state.consumers }

/-- The data points that the event of a request lists. -/
def listedDataPoints : Modification V → List (DataPointId × ExternalId)
  | .write write => write.validatedDatas.map fun data => (data.id, data.externalId)
  | .delete deletion => [(deletion.id, deletion.externalId)]

def eventTypeOf : Modification V → ConsumerEventType
  | .write _ => .dataPointChanged
  | .delete _ => .dataPointDeleted

/-- The tables and the file registry after a truncation. -/
def truncateStorage (ds : DataSeries) (deletedAt : Int) (storage : StorageState V) :
    StorageState V :=
  { storage with
    materialized :=
      if ds.backend = .dynamicSqlNoHistory ∨ ds.backend = .dynamicSqlMaterializedFlatHistory then ∅
      else storage.materialized
    history :=
      if ds.backend = .dynamicSqlMaterializedFlatHistory then [] else storage.history
    fileLookup := markDeleted (fun entry => decide (entry.tenantId = ds.tenantId ∧
      entry.dataSeriesId = ds.id ∧ entry.deletedAt = none)) deletedAt storage.fileLookup }

def Session.start (consumer : Consumer) (maxEvents : Option Nat) (now : Instant)
    (events : ConsumerEvents) : Session where
  consumer := consumer
  maxEvents := maxEvents
  batch := events
  locked := readBatch consumer.mode maxEvents events
  rest := readBatch consumer.mode maxEvents events
  sending := Sending.start consumer ⟨now, events⟩

/-- One turn of the loop, and whether it is over. -/
def Session.turn (session : Session) (reading : Reading) : Session × Bool :=
  match session.rest with
  | [] => (session, true)
  | entry :: rest =>
      if session.maxEvents.any fun limit => limit ≤ session.sending.cnt then
        ({ session with sending := { session.sending with moreEvents := true } }, true)
      else if entry.2.handleAt.any fun handleAt =>
          session.sending.state.now + reading.untilCheck < handleAt then
        ({ session with sending := session.sending.wait reading }, true)
      else
        let posted := session.sending.post session.consumer session.batch reading entry
        if !posted.canSave session.consumer reading entry then
          ({ session with
            rest := rest
            sending := posted.rollBack session.consumer session.batch }, true)
        else
          ({ session with
            rest := rest
            sending := session.sending.attempt session.consumer session.batch reading entry },
            !reading.delivery.succeeds)

/-- The turns one after the other, as they are when nothing else happens. -/
def Session.loop (readings : Nat → Reading) : Nat → Session → Session
  | 0, session => session
  | fuel + 1, session =>
      match session.turn (readings session.sending.cnt) with
      | (next, true) => next
      | (next, false) => next.loop readings fuel

/-- The body that a turn posts, if it does. -/
def Session.posted (session : Session) (reading : Reading) : Option EventBody :=
  match session.rest with
  | [] => none
  | entry :: _ =>
      if session.maxEvents.any fun limit => limit ≤ session.sending.cnt then none
      else if entry.2.handleAt.any fun handleAt =>
          session.sending.state.now + reading.untilCheck < handleAt then none
      else some ((entry.2.startCycle session.consumer).body session.consumer)

/-- What the events are once the transaction is committed: the locked rows are those that the
loop has saved. -/
def Session.commit (session : Session) (events : ConsumerEvents) : ConsumerEvents :=
  session.locked.foldl (fun events entry =>
    match session.sending.state.events.lookup entry.1 with
    | none => events
    | some saved => events.insert entry.1 saved) events

/-- A consumer that reads again what a body names. -/
def receive (format : PayloadFormat) (store known : DataPointId → Option (DataPoint V))
    (body : EventBody) : DataPointId → Option (DataPoint V) :=
  match format.loads body.payload with
  | none => known
  | some payload => reread payload.Names store known

/-- One turn of the loop for a consumer.  A failed delivery may have arrived all the same. -/
def ConsumerState.turn (format : PayloadFormat) (store : DataPointId → Option (DataPoint V))
    (reading : Reading) (arrives : Bool) (consumer : ConsumerState V) (session : Session) :
    ConsumerState V :=
  let known := (session.posted reading).elim consumer.known fun body =>
    if reading.delivery.succeeds || arrives then receive format store consumer.known body
    else consumer.known
  match session.turn reading with
  | (session, false) => { consumer with known := known, session := some session }
  | (session, true) =>
      { consumer with
        settings :=
          if session.consumer.health = session.sending.health then consumer.settings
          else { consumer.settings with health := session.sending.health }
        events := session.commit consumer.events
        session := none
        known := known }

/-- What requests, tasks and consumers do, each in a transaction of its own.  A request is one
step: what two requests read of each other under READ COMMITTED is not modelled.  Of the ways a
consumer goes, only the hard deletion is. -/
inductive FeedAction (V : Type u) where
  | modify (request : Modification V)
  | truncate (deletedAt pointInTime subClock : Int)
  | pruneHistory (olderThan now : Int)
  | createConsumer (consumerId : Uuid) (settings : Consumer)
  | updateConsumer (consumerId : Uuid) (settings : Consumer)
  | hardDeleteConsumer (consumerId : Uuid)
  | readAll (consumerId : Uuid)
  | beginSending (consumerId : Uuid) (maxEvents : Option Nat) (now : Instant)
  | turn (consumerId : Uuid) (reading : Reading) (arrives : Bool)
  | rollBack (consumerId : Uuid)
  | deleteOldEvents (consumerId : Uuid) (now : Instant)

/-- The payload of the events of a step. -/
def payloadOf (ds : DataSeries) (dataSeriesExternalId : ExternalId) :
    FeedAction V → Option EventPayload
  | .modify request => some ⟨ds.id, dataSeriesExternalId, some (listedDataPoints request)⟩
  | .truncate .. => some ⟨ds.id, dataSeriesExternalId, none⟩
  | _ => none

/-- Somebody else has to wait for the rows. -/
def ConsumerState.holdsLocks (consumer : ConsumerState V) : Bool :=
  consumer.session.any fun session => !session.locked.isEmpty

/-- 30 days, in microseconds. -/
def eventAge : Int := 30 * 24 * 60 * 60 * 1000000

/-- The filter of `delete_old_events`. -/
def ConsumerEvent.IsOld (now : Instant) (event : ConsumerEvent) : Prop :=
  event.Done ∧ event.pointInTime ≤ now - eventAge

instance (now : Instant) (event : ConsumerEvent) : Decidable (ConsumerEvent.IsOld now event) :=
  inferInstanceAs (Decidable (_ ∧ _))

/-- A step that concerns one consumer. -/
def updateConsumerState (consumerId : Uuid) (change : ConsumerState V → ConsumerState V)
    (state : SeriesState V) : SeriesState V :=
  match state.consumers.lookup consumerId with
  | none => state
  | some consumer =>
      { state with consumers := state.consumers.insert consumerId (change consumer) }

variable [UploadedFile V]

def feedStep (format : PayloadFormat) (ds : DataSeries) (dataSeriesExternalId : ExternalId)
    (state : SeriesState V) : FeedAction V → SeriesState V
  | .modify request =>
      -- there is an event even where the storage holds something newer
      createEvents (dataPointEvent request.clock.pointInTime (some request.clock.subClock)
          (format.dumps ⟨ds.id, dataSeriesExternalId, some (listedDataPoints request)⟩)
          (eventTypeOf request))
        { state with storage := modify ds state.storage request }
  | .truncate deletedAt pointInTime subClock =>
      if state.consumers.entries.any fun entry => entry.2.holdsLocks then state
      else
        createEvents (dataPointEvent pointInTime (some subClock)
            (format.dumps ⟨ds.id, dataSeriesExternalId, none⟩) .dataSeriesTruncated)
          (truncateEvents { state with storage := truncateStorage ds deletedAt state.storage })
  | .pruneHistory olderThan now =>
      { state with storage := pruneHistory ds olderThan now state.storage }
  | .createConsumer consumerId settings =>
      if consumerId ∈ state.consumers then state
      else { state with
        consumers := state.consumers.insert consumerId ⟨settings, ∅, none, fun _ => none, false⟩ }
  | .updateConsumer consumerId settings =>
      updateConsumerState consumerId (fun consumer => { consumer with settings := settings }) state
  | .hardDeleteConsumer consumerId =>
      if (state.consumers.lookup consumerId).any ConsumerState.holdsLocks then state
      else { state with consumers := state.consumers.erase consumerId }
  | .readAll consumerId =>
      updateConsumerState consumerId (fun consumer =>
        { consumer with known := shown ds state.storage, hasRead := true }) state
  | .beginSending consumerId maxEvents now =>
      updateConsumerState consumerId (fun consumer =>
        if consumer.session.isSome then consumer
        else { consumer with
          session := some (.start consumer.settings maxEvents now consumer.events) }) state
  | .turn consumerId reading arrives =>
      updateConsumerState consumerId (fun consumer =>
        consumer.session.elim consumer
          (consumer.turn format (shown ds state.storage) reading arrives)) state
  | .rollBack consumerId =>
      updateConsumerState consumerId (fun consumer => { consumer with session := none }) state
  | .deleteOldEvents consumerId now =>
      updateConsumerState consumerId (fun consumer =>
        { consumer with
          events := KeyedTable.deleteWhere (fun _ event => ConsumerEvent.IsOld now event)
            consumer.events }) state

end DataPointEvents

end NFCompose
