/-
The heartbeats of the consumers, which keep one job each in the queue: a heartbeat that
is asked for is not missed, whatever the other workers do.
-/
import NFCompose.GeneratedNames
import NFCompose.JobWorkers

namespace NFCompose

namespace EventHeartbeats

open JobSweep JobWorkers GeneratedNames Runs

/-- `actual_run_heartbeat_consumers` is called with a consumer of a tenant. -/
structure HeartbeatArgs where
  tenantId : UuidText
  tenantName : String
  consumerId : UuidText

def getQueueName (varKey queueBaseName : String) : String := varKey ++ "_" ++ queueBaseName

def HeartbeatArgs.queue (args : HeartbeatArgs) : TenantQueue where
  queue := getQueueName
    (args.tenantId.value ++ "_" ++ args.tenantName ++ "_" ++ args.consumerId.value) "consumer"
  tenant := args.tenantId.value
  tasks := ["consumer_heartbeat"]
  atMostOnce := true

/-- What the workers of the event queue do. -/
inductive EventAction (T : Type) where
  | enqueue (args : HeartbeatArgs) (now : T)
  | tryRunAll (worker : Nat) (args : HeartbeatArgs)
  | dequeueTenant (worker : Nat) (now : T)
  | returns (worker : Nat)
  | raises (worker : Nat)
  | dies (worker : Nat)

variable {T : Type}

def EventAction.toWorkerAction : EventAction T → WorkerAction T
  | .enqueue args now => .enqueue args.queue true "consumer_heartbeat" none none now
  | .tryRunAll worker args => .tryRunAll worker args.queue
  | .dequeueTenant worker now => .dequeueTenant worker now
  | .returns worker => .returns worker
  | .raises worker => .raises worker
  | .dies worker => .dies worker

variable [LinearOrder T]

def eventStep (state : WorkersState T) (action : EventAction T) : WorkersState T :=
  workerStep state action.toWorkerAction

/-- No clock runs backwards. -/
def Timely (state : WorkersState T) : EventAction T → Prop
  | .enqueue _ now => state.clock ≤ now
  | .dequeueTenant _ now => state.clock ≤ now
  | _ => True

instance (state : WorkersState T) : (action : EventAction T) → Decidable (Timely state action)
  | .enqueue _ now => inferInstanceAs (Decidable (state.clock ≤ now))
  | .dequeueTenant _ now => inferInstanceAs (Decidable (state.clock ≤ now))
  | .tryRunAll _ _ | .returns _ | .raises _ | .dies _ => isTrue trivial

/-- A row of the event queue, due by some time. -/
structure HeartbeatRow (args : HeartbeatArgs) (clock : T) (row : Row T) : Prop where
  belongs : Belongs args.queue row.job
  identifier : row.globallyUniqueIdentifier = taskIdentifier args.queue true "consumer_heartbeat"
  due : row.job.executeAt ≤ clock

structure EventInv (state : WorkersState T) : Prop where
  queue : QueueInv state
  rows : ∀ row ∈ state.rows, ∃ args, HeartbeatRow args state.clock row
  sweeps : ∀ worker sweep, state.workers.lookup worker = some sweep →
    sweep.queue.atMostOnce = true

variable {state : WorkersState T} {args other : HeartbeatArgs} {worker : Nat} {row : Row T}

/-- One identifier is the identifier of one queue, as its name begins with the tenant. -/
theorem queue_of_taskIdentifier {task : String}
    (hidentifier : taskIdentifier args.queue true task = taskIdentifier other.queue true task) :
    args.queue.queue = other.queue.queue ∧ args.queue.tenant = other.queue.tenant := by
  simp only [taskIdentifier, if_true, Option.some.injEq, String.append_left_inj] at hidentifier
  refine ⟨hidentifier, String.toList_inj.mp ?_⟩
  have hchars := congrArg String.toList hidentifier
  simp only [HeartbeatArgs.queue, getQueueName, String.toList_append, List.append_assoc] at hchars
  have hlength : args.tenantId.value.toList.length = other.tenantId.value.toList.length := by
    rw [String.length_toList, String.length_toList, args.tenantId.length_eq,
      other.tenantId.length_eq]
  exact (List.append_inj hchars hlength).1

/-- No row of the event queue is ever locked. -/
theorem EventInv.locked_nil (hinv : EventInv state) : state.locked = [] := by
  refine List.eq_nil_iff_forall_not_mem.mpr fun id hid => ?_
  obtain ⟨worker, queue, job, hlookup, hkind, -⟩ := mem_locked.mp hid
  have hsweeps := hinv.sweeps worker _ hlookup
  rw [hkind] at hsweeps
  cases hsweeps

theorem HeartbeatRow.mono {clock now : T} (hrow : HeartbeatRow args clock row)
    (hnow : clock ≤ now) : HeartbeatRow args now row :=
  { hrow with due := hrow.due.trans hnow }

theorem EventInv.enqueue (hinv : EventInv state) (args : HeartbeatArgs) {now : T}
    (hnow : state.clock ≤ now) : EventInv (eventStep state (.enqueue args now)) where
  queue := hinv.queue.enqueue args.queue true "consumer_heartbeat" none none now
  rows row hrow := by
    dsimp only [eventStep, EventAction.toWorkerAction, workerStep] at hrow ⊢
    rcases enqueue_cases args.queue true "consumer_heartbeat" none none now state with
      ⟨heq, -⟩ | ⟨-, heq⟩
    · rw [heq] at hrow ⊢
      obtain ⟨other, hother⟩ := hinv.rows row hrow
      exact ⟨other, hother.mono hnow⟩
    · rw [heq] at hrow ⊢
      rcases List.mem_append.mp hrow with hrow | hnew
      · obtain ⟨other, hother⟩ := hinv.rows row hrow
        exact ⟨other, hother.mono hnow⟩
      · rw [List.mem_singleton.mp hnew]
        exact ⟨args, ⟨rfl, rfl, List.mem_singleton_self _⟩, rfl, le_rfl⟩
  sweeps worker sweep hlookup := by
    dsimp only [eventStep, EventAction.toWorkerAction, workerStep] at hlookup
    rcases enqueue_cases args.queue true "consumer_heartbeat" none none now state with
      ⟨heq, -⟩ | ⟨-, heq⟩ <;>
    · rw [heq] at hlookup
      exact hinv.sweeps worker sweep hlookup

/-- The sweeps of a state after a worker began or went on. -/
theorem EventInv.insert_sweeps (hinv : EventInv state) {queue : TenantQueue}
    (hqueue : queue.atMostOnce = true) {running : Option (Job T)} {other : Nat}
    {sweep : Sweep T}
    (hother : (state.workers.insert worker ⟨queue, running⟩).lookup other = some sweep) :
    sweep.queue.atMostOnce = true := by
  by_cases hsame : other = worker
  · rw [hsame, AList.lookup_insert, Option.some.injEq] at hother
    rw [← hother]
    exact hqueue
  · rw [AList.lookup_insert_ne hsame] at hother
    exact hinv.sweeps other sweep hother

theorem EventInv.dequeue (hinv : EventInv state) (worker : Nat) {now : T}
    (hnow : state.clock ≤ now) : EventInv (dequeueStep worker now state) where
  queue := hinv.queue.dequeueStep worker now
  rows row hrow := by
    rcases dequeueStep_cases worker now state with
      ⟨heq, -⟩ | ⟨queue, -, ⟨-, heq⟩ | ⟨taken, -, -, -, heq⟩⟩ <;> rw [heq] at hrow ⊢
    · exact hinv.rows row hrow
    · obtain ⟨args, hargs⟩ := hinv.rows row hrow
      exact ⟨args, hargs.mono hnow⟩
    · obtain ⟨args, hargs⟩ := hinv.rows row (mem_of_mem_begin hrow)
      exact ⟨args, hargs.mono hnow⟩
  sweeps other sweep hother := by
    rcases dequeueStep_cases worker now state with
      ⟨heq, -⟩ | ⟨queue, hlookup, ⟨-, heq⟩ | ⟨taken, -, -, -, heq⟩⟩ <;> rw [heq] at hother
    · exact hinv.sweeps other sweep hother
    · exact hinv.sweeps other sweep (lookup_of_erase hother)
    · exact hinv.insert_sweeps (hinv.sweeps worker _ hlookup) hother

theorem eventStep_keeps_inv (state : WorkersState T) (action : EventAction T)
    (hinv : EventInv state) (htimely : Timely state action) :
    EventInv (eventStep state action) := by
  have hqueue : QueueInv (eventStep state action) := workerStep_keeps_inv _ _ hinv.queue
  cases action with
  | enqueue args now => exact hinv.enqueue args htimely
  | dequeueTenant worker now => exact hinv.dequeue worker htimely
  | tryRunAll worker args =>
      revert hqueue
      dsimp only [eventStep, EventAction.toWorkerAction, workerStep]
      split
      · exact fun hqueue => ⟨hqueue, hinv.rows, fun _ _ => hinv.insert_sweeps rfl⟩
      · exact fun _ => hinv
  | returns worker =>
      revert hqueue
      dsimp only [eventStep, EventAction.toWorkerAction, workerStep, returnStep]
      split
      · next queue job hlookup =>
          have hkind := hinv.sweeps worker _ hlookup
          rw [if_pos hkind]
          exact fun hqueue => ⟨hqueue, hinv.rows, fun _ _ => hinv.insert_sweeps hkind⟩
      · exact fun _ => hinv
  | raises worker =>
      revert hqueue
      dsimp only [eventStep, EventAction.toWorkerAction, workerStep]
      split
      · exact fun hqueue => ⟨hqueue, hinv.rows,
          fun other sweep hother => hinv.sweeps other sweep (lookup_of_erase hother)⟩
      · exact fun _ => hinv
  | dies worker =>
      exact ⟨hqueue, hinv.rows,
        fun other sweep hother => hinv.sweeps other sweep (lookup_of_erase hother)⟩

/-- A heartbeat of the consumer waits in the queue. -/
def Pending (args : HeartbeatArgs) (state : WorkersState T) : Prop :=
  ∃ row ∈ state.rows, Belongs args.queue row.job

/-- A heartbeat of the consumer was begun after a part of the record. -/
def Attended (args : HeartbeatArgs) (before : List (Start T)) (state : WorkersState T) : Prop :=
  ∃ begun, state.started = begun ++ before ∧ ∃ start ∈ begun, Belongs args.queue start.job

/-- The record goes on, and what was asked for waits or was begun. -/
structure Awaited (args : HeartbeatArgs) (before : List (Start T)) (state : WorkersState T) :
    Prop where
  inv : EventInv state
  goes_on : ∃ begun, state.started = begun ++ before
  waits : Attended args before state ∨ Pending args state

theorem enqueue_pending (hinv : EventInv state) (args : HeartbeatArgs) (now : T) :
    Pending args (eventStep state (.enqueue args now)) := by
  dsimp only [eventStep, EventAction.toWorkerAction, workerStep]
  rcases enqueue_cases args.queue true "consumer_heartbeat" none none now state with
    ⟨heq, hexists⟩ | ⟨-, heq⟩
  · -- The job that is there already is one of this consumer.
    rw [heq]
    obtain ⟨row, hrow, hidentifier⟩ := hexists (List.mem_singleton_self _) rfl
    obtain ⟨other, hother⟩ := hinv.rows row hrow
    obtain ⟨hqueue, htenant⟩ := queue_of_taskIdentifier (hother.identifier.symm.trans hidentifier)
    exact ⟨row, hrow, hother.belongs.queue_eq.trans hqueue, hother.belongs.tenant_eq.trans htenant,
      hother.belongs.task_mem⟩
  · rw [heq]
    exact ⟨_, List.mem_append_right _ (List.mem_singleton_self _), rfl, rfl,
      List.mem_singleton_self _⟩

omit [LinearOrder T] in
/-- A row is still there when another one was taken. -/
theorem mem_begin {rows : List (Row T)} (hnodup : (rows.map fun row => row.job.id).Nodup)
    {taken : Row T} (htaken : taken ∈ rows) (hrow : row ∈ rows) (hne : row ≠ taken)
    (atMostOnce : Bool) : row ∈ if atMostOnce then deleteRow taken.job.id rows else rows := by
  cases atMostOnce
  · exact hrow
  · exact mem_deleteRow.mpr ⟨hrow, fun hid => hne (List.inj_on_of_nodup_map hnodup hrow htaken hid)⟩

/-- Only `dequeue_tenant` begins a job or takes a row away. -/
theorem eventStep_keeps_rows (hinv : EventInv state) {action : EventAction T}
    (haction : ∀ worker now, action ≠ .dequeueTenant worker now) :
    (eventStep state action).started = state.started ∧
      ∀ row ∈ state.rows, row ∈ (eventStep state action).rows := by
  cases action with
  | dequeueTenant worker now => exact absurd rfl (haction worker now)
  | enqueue args now =>
      dsimp only [eventStep, EventAction.toWorkerAction, workerStep]
      rcases enqueue_cases args.queue true "consumer_heartbeat" none none now state with
        ⟨heq, -⟩ | ⟨-, heq⟩ <;> rw [heq]
      · exact ⟨rfl, fun _ => id⟩
      · exact ⟨rfl, fun _ => List.mem_append_left _⟩
  | tryRunAll worker args =>
      dsimp only [eventStep, EventAction.toWorkerAction, workerStep]
      split <;> exact ⟨rfl, fun _ => id⟩
  | returns worker =>
      dsimp only [eventStep, EventAction.toWorkerAction, workerStep, returnStep]
      split
      · next queue job hlookup =>
          rw [if_pos (hinv.sweeps worker _ hlookup)]
          exact ⟨rfl, fun _ => id⟩
      · exact ⟨rfl, fun _ => id⟩
  | raises worker =>
      dsimp only [eventStep, EventAction.toWorkerAction, workerStep]
      split <;> exact ⟨rfl, fun _ => id⟩
  | dies worker => exact ⟨rfl, fun _ => id⟩

theorem Awaited.of_keeps {before : List (Start T)} (hawaited : Awaited args before state)
    {next : WorkersState T} (hinv : EventInv next) (hstarted : next.started = state.started)
    (hrows : ∀ row ∈ state.rows, row ∈ next.rows) : Awaited args before next where
  inv := hinv
  goes_on := hstarted ▸ hawaited.goes_on
  waits := by
    refine hawaited.waits.imp (fun hattended => ?_) fun ⟨row, hrow, hbelongs⟩ =>
      ⟨row, hrows row hrow, hbelongs⟩
    rw [Attended, hstarted]
    exact hattended

/-- Whoever takes the row begins the job. -/
theorem Awaited.begin {before : List (Start T)} (hawaited : Awaited args before state)
    {taken : Row T} (htaken : taken ∈ state.rows) {next : WorkersState T} (hinv : EventInv next)
    (atMostOnce : Bool) (hstarted : next.started = ⟨taken.job, atMostOnce⟩ :: state.started)
    (hrows : next.rows = if atMostOnce then deleteRow taken.job.id state.rows else state.rows) :
    Awaited args before next := by
  obtain ⟨begun, hbegun⟩ := hawaited.goes_on
  have hgoesOn : next.started = (⟨taken.job, atMostOnce⟩ :: begun) ++ before := by
    rw [hstarted, hbegun, List.cons_append]
  refine ⟨hinv, ⟨_, hgoesOn⟩, ?_⟩
  rcases hawaited.waits with ⟨early, hearly, start, hstart, hbelongs⟩ | ⟨row, hrow, hbelongs⟩
  · have hsame : early = begun := List.append_cancel_right (hearly.symm.trans hbegun)
    exact .inl ⟨_, hgoesOn, start, List.mem_cons_of_mem _ (hsame ▸ hstart), hbelongs⟩
  · by_cases hsame : row = taken
    · exact .inl ⟨_, hgoesOn, _, List.mem_cons_self, hsame ▸ hbelongs⟩
    · refine .inr ⟨row, ?_, hbelongs⟩
      rw [hrows]
      exact mem_begin hawaited.inv.queue.ledger.ids_nodup htaken hrow hsame atMostOnce

theorem Awaited.step {before : List (Start T)} (hawaited : Awaited args before state)
    {action : EventAction T} (htimely : Timely state action) :
    Awaited args before (eventStep state action) := by
  have hinv := eventStep_keeps_inv state action hawaited.inv htimely
  by_cases haction : ∃ worker now, action = .dequeueTenant worker now
  · obtain ⟨worker, now, rfl⟩ := haction
    revert hinv
    dsimp only [eventStep, EventAction.toWorkerAction, workerStep]
    rcases dequeueStep_cases worker now state with
      ⟨heq, -⟩ | ⟨queue, -, ⟨-, heq⟩ | ⟨taken, htaken, -, -, heq⟩⟩ <;> rw [heq] <;> intro hinv
    · exact hawaited
    · exact hawaited.of_keeps hinv rfl fun _ => id
    · exact hawaited.begin htaken hinv queue.atMostOnce rfl rfl
  · push Not at haction
    obtain ⟨hstarted, hrows⟩ := eventStep_keeps_rows hawaited.inv haction
    exact hawaited.of_keeps hinv hstarted hrows

/-- The worker looks for the heartbeat, until it was begun by somebody. -/
def Serving (args : HeartbeatArgs) (before : List (Start T)) (worker : Nat)
    (state : WorkersState T) : Prop :=
  Awaited args before state ∧
    (Attended args before state ∨ state.workers.lookup worker = some ⟨args.queue, none⟩)

/-- While a heartbeat waits, the worker does not find its queue empty. -/
theorem dequeue_of_pending (hinv : EventInv state) (hpending : Pending args state) {now : T}
    (hnow : state.clock ≤ now) :
    args.queue.dequeueTenant ⟨now, state.locked, []⟩ [] (state.rows.map Row.job) ≠ none := by
  obtain ⟨row, hrow, hqueue, htenant, htask⟩ := hpending
  obtain ⟨other, hother⟩ := hinv.rows row hrow
  intro hnone
  refine not_isReady_of_dequeueTenant_none hnone row.job (List.mem_map_of_mem hrow) ?_
  simp [TenantQueue.isReady, hinv.locked_nil, hqueue, htenant, htask, hother.due.trans hnow]

/-- A worker that sweeps and has no job goes on until it asks for one. -/
theorem eventStep_keeps_sweep (hsweep : state.workers.lookup worker = some ⟨args.queue, none⟩)
    {action : EventAction T} (hdequeue : ∀ now, action ≠ .dequeueTenant worker now)
    (hlives : action ≠ .dies worker) :
    (eventStep state action).workers.lookup worker = some ⟨args.queue, none⟩ := by
  cases action with
  | enqueue args now =>
      dsimp only [eventStep, EventAction.toWorkerAction, workerStep]
      rcases enqueue_cases args.queue true "consumer_heartbeat" none none now state with
        ⟨heq, -⟩ | ⟨-, heq⟩ <;> rw [heq] <;> exact hsweep
  | dequeueTenant other now =>
      have hne : other ≠ worker := fun hsame => hdequeue now (hsame ▸ rfl)
      dsimp only [eventStep, EventAction.toWorkerAction, workerStep]
      rcases dequeueStep_cases other now state with
        ⟨heq, -⟩ | ⟨queue, -, ⟨-, heq⟩ | ⟨taken, -, -, -, heq⟩⟩ <;> rw [heq]
      · exact hsweep
      · exact (AList.lookup_erase_ne hne.symm).trans hsweep
      · exact (AList.lookup_insert_ne hne.symm).trans hsweep
  | tryRunAll other args =>
      dsimp only [eventStep, EventAction.toWorkerAction, workerStep]
      split
      · next hidle =>
          have hne : other ≠ worker := by
            rintro rfl
            rw [hsweep] at hidle
            cases hidle
          exact (AList.lookup_insert_ne hne.symm).trans hsweep
      · exact hsweep
  | returns other =>
      dsimp only [eventStep, EventAction.toWorkerAction, workerStep, returnStep]
      split
      · next queue job hrunning =>
          have hne : other ≠ worker := by
            rintro rfl
            rw [hsweep] at hrunning
            cases hrunning
          exact (AList.lookup_insert_ne hne.symm).trans hsweep
      · exact hsweep
  | raises other =>
      dsimp only [eventStep, EventAction.toWorkerAction, workerStep]
      split
      · next queue job hrunning =>
          have hne : other ≠ worker := by
            rintro rfl
            rw [hsweep] at hrunning
            cases hrunning
          exact (AList.lookup_erase_ne hne.symm).trans hsweep
      · exact hsweep
  | dies other =>
      have hne : other ≠ worker := fun hsame => hlives (hsame ▸ rfl)
      exact (AList.lookup_erase_ne hne.symm).trans hsweep

/-- The record is only ever added to. -/
theorem eventStep_started (hinv : EventInv state) (action : EventAction T) :
    ∃ begun, (eventStep state action).started = begun ++ state.started := by
  by_cases haction : ∃ worker now, action = .dequeueTenant worker now
  · obtain ⟨worker, now, rfl⟩ := haction
    dsimp only [eventStep, EventAction.toWorkerAction, workerStep]
    rcases dequeueStep_cases worker now state with
      ⟨heq, -⟩ | ⟨queue, -, ⟨-, heq⟩ | ⟨taken, -, -, -, heq⟩⟩ <;> rw [heq]
    · exact ⟨[], rfl⟩
    · exact ⟨[], rfl⟩
    · exact ⟨[_], rfl⟩
  · push Not at haction
    exact ⟨[], (eventStep_keeps_rows hinv haction).1⟩

theorem Attended.step {before : List (Start T)} (hattended : Attended args before state)
    (hinv : EventInv state) (action : EventAction T) :
    Attended args before (eventStep state action) := by
  obtain ⟨early, hearly, start, hstart, hbelongs⟩ := hattended
  obtain ⟨begun, hbegun⟩ := eventStep_started hinv action
  exact ⟨begun ++ early, by rw [hbegun, hearly, List.append_assoc], start,
    List.mem_append_right _ hstart, hbelongs⟩

theorem Serving.step {before : List (Start T)} (hserving : Serving args before worker state)
    {action : EventAction T} (htimely : Timely state action) (hlives : action ≠ .dies worker) :
    Serving args before worker (eventStep state action) := by
  obtain ⟨hawaited, hsweep⟩ := hserving
  refine ⟨hawaited.step htimely, ?_⟩
  rcases hawaited.waits with hattended | hpending
  · exact .inl (hattended.step hawaited.inv action)
  · rcases hsweep with hattended | hsweep
    · exact .inl (hattended.step hawaited.inv action)
    · by_cases hdequeue : ∃ now, action = .dequeueTenant worker now
      · -- It finds a job of its queue, and all jobs of this queue are heartbeats.
        obtain ⟨now, rfl⟩ := hdequeue
        refine .inl ?_
        dsimp only [eventStep, EventAction.toWorkerAction, workerStep]
        rcases dequeueStep_cases worker now state with
          ⟨-, hbusy⟩ | ⟨queue, hqueue, hfound⟩
        · exact absurd hsweep (hbusy args.queue)
        · rw [hsweep, Option.some.injEq, Sweep.mk.injEq] at hqueue
          obtain ⟨rfl, -⟩ := hqueue
          rcases hfound with ⟨hnone, -⟩ | ⟨taken, -, -, hbelongs, heq⟩
          · exact absurd hnone (dequeue_of_pending hawaited.inv hpending htimely)
          · obtain ⟨begun, hbegun⟩ := hawaited.goes_on
            rw [heq]
            exact ⟨_ :: begun, by rw [hbegun, List.cons_append], _, List.mem_cons_self, hbelongs⟩
      · push Not at hdequeue
        exact .inr (eventStep_keeps_sweep hsweep hdequeue hlives)

theorem eventInv_empty (clock : T) : EventInv (WorkersState.empty clock) where
  queue := queueInv_empty clock
  rows := by simp [WorkersState.empty]
  sweeps := by simp [WorkersState.empty]

/-- A heartbeat that is asked for is begun before the sweep that follows is over. -/
theorem heartbeat_not_missed (clock : T) (earlier meanwhile later : List (EventAction T))
    (args : HeartbeatArgs) (worker : Nat) (now : T)
    (htimely : AllSteps eventStep Timely (.empty clock)
      (earlier ++ .enqueue args now :: (meanwhile ++ .tryRunAll worker args :: later)))
    (hidle : (run eventStep (.empty clock)
      (earlier ++ .enqueue args now :: meanwhile)).workers.lookup worker = none)
    (hlives : .dies worker ∉ later)
    (hover : (run eventStep (.empty clock) (earlier ++ .enqueue args now ::
      (meanwhile ++ .tryRunAll worker args :: later))).workers.lookup worker = none) :
    ∃ begun,
      (run eventStep (.empty clock) (earlier ++ .enqueue args now ::
          (meanwhile ++ .tryRunAll worker args :: later))).started =
        begun ++ (run eventStep (.empty clock) earlier).started ∧
      ∃ start ∈ begun, Belongs args.queue start.job := by
  obtain ⟨hearlier, henqueue, hrest⟩ := (allSteps_append _ _ _ _ _).mp htimely
  obtain ⟨hmeanwhile, hsweep, hlater⟩ := (allSteps_append _ _ _ _ _).mp hrest
  simp only [run_append, run_cons] at hidle hover ⊢
  have hinv := run_invariant EventInv eventStep_keeps_inv (eventInv_empty clock) hearlier
  generalize run eventStep (.empty clock) earlier = asked at *
  have hasked : Awaited args asked.started (eventStep asked (.enqueue args now)) :=
    { inv := eventStep_keeps_inv _ _ hinv henqueue
      goes_on := eventStep_started hinv _
      waits := .inr (enqueue_pending hinv args now) }
  have hwaiting := run_invariant (Awaited args asked.started)
    (fun _ _ hawaited htimely => hawaited.step htimely) hasked hmeanwhile
  generalize run eventStep (eventStep asked (.enqueue args now)) meanwhile = waiting at *
  have hbegins : Serving args asked.started worker
      (eventStep waiting (.tryRunAll worker args)) := by
    refine ⟨hwaiting.step hsweep, .inr ?_⟩
    dsimp only [eventStep, EventAction.toWorkerAction, workerStep]
    rw [hidle]
    exact AList.lookup_insert _
  have hlaterLives : ∀ action ∈ later, action ≠ .dies worker :=
    fun action haction heq => hlives (heq ▸ haction)
  have hserved := run_invariant (Serving args asked.started worker)
    (fun _ _ hserving hcond => hserving.step hcond.1 hcond.2) hbegins
    (allSteps_and_forall hlater hlaterLives)
  rcases hserved.2 with hattended | hsweeping
  · exact hattended
  · rw [hover] at hsweeping
    cases hsweeping

namespace HeartbeatWitness

def acme : UuidText :=
  ⟨"00000000-0000-4000-8000-00000000000a", by decide, List.all_iff_forall_prop.mp (by decide)⟩

def reportsConsumer : UuidText :=
  ⟨"00000000-0000-4000-8000-00000000000b", by decide, List.all_iff_forall_prop.mp (by decide)⟩

def reports : HeartbeatArgs := ⟨acme, "acme", reportsConsumer⟩

/-- Two workers are called for one consumer, and the other one gets the only job. -/
theorem reports_not_missed :
    ∃ begun,
      (run eventStep (.empty 0) ([] ++ .enqueue reports 1 :: ([.tryRunAll 7 reports] ++
          .tryRunAll 8 reports :: [.dequeueTenant 7 2, .dequeueTenant 8 3, .returns 7]))).started =
        begun ++ (run eventStep (.empty 0) []).started ∧
      ∃ start ∈ begun, Belongs reports.queue start.job :=
  heartbeat_not_missed 0 [] [.tryRunAll 7 reports] [.dequeueTenant 7 2, .dequeueTenant 8 3,
    .returns 7] reports 8 1 (by decide +kernel) (by decide +kernel) (by simp) (by decide +kernel)

end HeartbeatWitness

end EventHeartbeats

end NFCompose
