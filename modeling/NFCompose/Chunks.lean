/-
The generator `chunks` of the server and the client.  The chunks read from the iterator of
the outer generator and see its loop variable, so what they yield depends on the order in
which they are consumed.
-/
import NFCompose.BulkInsert

namespace NFCompose

namespace Chunks

universe u v w x

/-- What the chunks share with the outer generator: the iterator and the variable `first`. -/
structure Shared (S : Type u) (A : Type v) where
  iterator : S
  first : Option A

/-- A chunk before its first element, one that may yield so many more, one that has
stopped. -/
inductive Chunk where
  | created
  | started (left : Nat)
  | finished
deriving DecidableEq, Repr

section Generators

variable {S : Type u} {A : Type v} {B : Type w}
variable (advance : S → Option (A × S)) (mapFn : A → B) (size : Nat)

/-- `next` on a chunk. -/
def Chunk.next : Chunk → Shared S A → Option B × Chunk × Shared S A
  | .created, shared =>
      match shared.first with
      | none => (none, .created, shared)
      | some first => (some (mapFn first), .started (size - 1), shared)
  | .started 0, shared => (none, .finished, shared)
  | .started (left + 1), shared =>
      match advance shared.iterator with
      | none => (none, .finished, shared)
      | some (more, iterator) => (some (mapFn more), .started left, { shared with iterator })
  | .finished, shared => (none, .finished, shared)

/-- A consumer: the generators it holds, the newest first, each with what it yielded. -/
structure Consumption (S : Type u) (A : Type v) (B : Type w) where
  shared : Shared S A
  exhausted : Bool
  chunks : List (Chunk × List B)

def Consumption.start (start : S) : Consumption S A B := ⟨⟨start, none⟩, false, []⟩

/-- `next` on the outer generator. -/
def Consumption.nextChunk (consumption : Consumption S A B) : Consumption S A B :=
  if consumption.exhausted then consumption
  else
    match advance consumption.shared.iterator with
    | none => { consumption with exhausted := true }
    | some (first, iterator) =>
        { consumption with
          shared := ⟨iterator, some first⟩, chunks := (.created, []) :: consumption.chunks }

def Consumption.nextElement (consumption : Consumption S A B) (index : Nat) :
    Consumption S A B :=
  match consumption.chunks[index]? with
  | none => consumption
  | some (chunk, yielded) =>
      let (element, chunk, shared) := chunk.next advance mapFn size consumption.shared
      { consumption with
        shared, chunks := consumption.chunks.set index (chunk, yielded ++ element.toList) }

/-- The chunks one after the other. -/
def Consumption.elements (consumption : Consumption S A B) : List B :=
  consumption.chunks.reverse.flatMap Prod.snd

def Consumption.AllFinished (consumption : Consumption S A B) : Prop :=
  ∀ entry ∈ consumption.chunks, entry.1 = .finished

/-- Every chunk is fully consumed before the next one is requested. -/
inductive Consumed (start : S) : Consumption S A B → Prop where
  | start : Consumed start (.start start)
  | chunk {consumption : Consumption S A B} : Consumed start consumption →
      consumption.AllFinished → Consumed start (consumption.nextChunk advance)
  | element {consumption : Consumption S A B} (index : Nat) : Consumed start consumption →
      Consumed start (consumption.nextElement advance mapFn size index)

/-- What the iterator gives between two of its states. -/
inductive Gives : S → List A → S → Prop where
  | nil (state : S) : Gives state [] state
  | cons {state middle last : S} {element : A} {elements : List A} :
      advance state = some (element, middle) → Gives middle elements last →
      Gives state (element :: elements) last

/-- Everything the iterator gives, if it ends. -/
def WholeInput (start : S) (input : List A) : Prop :=
  ∃ last, Gives advance start input last ∧ advance last = none

/-- The chunks are the mapped input in order, none of them empty or too long. -/
structure LosesNothing (start : S) (consumption : Consumption S A B) : Prop where
  sized : ∀ entry ∈ consumption.chunks, entry.1 = .finished →
    entry.2 ≠ [] ∧ entry.2.length ≤ size
  in_order : consumption.AllFinished → ∃ input,
    Gives advance start input consumption.shared.iterator ∧
      consumption.elements = input.map mapFn
  whole : consumption.exhausted → ∃ input, WholeInput advance start input ∧
    consumption.elements = input.map mapFn

end Generators

section Consumers

variable {S : Type u} {A : Type v} {B : Type w}
variable {advance : S → Option (A × S)} {mapFn : A → B} {size : Nat}

theorem Gives.trans {start middle last : S} {elements more : List A}
    (helements : Gives advance start elements middle) (hmore : Gives advance middle more last) :
    Gives advance start (elements ++ more) last := by
  induction helements with
  | nil => exact hmore
  | cons hnext _ ih => exact .cons hnext (ih hmore)

theorem Gives.single {state last : S} {element : A} (hnext : advance state = some (element, last)) :
    Gives advance state [element] last :=
  .cons hnext (.nil last)

/-- What a chunk has read from the iterator and not yet yielded. -/
def Chunk.pending (mapFn : A → B) (shared : Shared S A) : Chunk → List B
  | .created => (shared.first.map mapFn).toList
  | .started _ => []
  | .finished => []

/-- How much a chunk has yielded, by its state. -/
def Chunk.Sized (size : Nat) (yielded : List B) : Chunk → Prop
  | .created => yielded = []
  | .started left => yielded ≠ [] ∧ yielded.length + left ≤ size
  | .finished => yielded ≠ [] ∧ yielded.length ≤ size

theorem Chunk.next_sized (hsize : 1 ≤ size) {chunk : Chunk} {yielded : List B}
    {shared : Shared S A} (hsized : chunk.Sized size yielded) :
    (chunk.next advance mapFn size shared).2.1.Sized size
      (yielded ++ (chunk.next advance mapFn size shared).1.toList) := by
  cases chunk with
  | created =>
      have hnil : yielded = [] := hsized
      subst hnil
      cases hfirst : shared.first with
      | none => simp [Chunk.next, Chunk.Sized, hfirst]
      | some first =>
          simp only [Chunk.next, Chunk.Sized, hfirst, Option.toList_some, List.nil_append,
            List.length_singleton]
          exact ⟨List.cons_ne_nil _ _, by omega⟩
  | started left =>
      obtain ⟨hne, hlength⟩ := hsized
      cases left with
      | zero => simpa [Chunk.next, Chunk.Sized, hne] using hlength
      | succ left =>
          cases hnext : advance shared.iterator with
          | none =>
              simp only [Chunk.next, Chunk.Sized, hnext, Option.toList_none, List.append_nil]
              exact ⟨hne, by omega⟩
          | some given =>
              simp only [Chunk.next, Chunk.Sized, hnext, Option.toList_some, List.length_append,
                List.length_singleton]
              exact ⟨by simp, by omega⟩
  | finished => simpa [Chunk.next, Chunk.Sized] using hsized

/-- A chunk yields what was pending, or what it reads. -/
theorem Chunk.next_gives (advance : S → Option (A × S)) (mapFn : A → B) (size : Nat)
    (chunk : Chunk) (shared : Shared S A) :
    ∃ read, Gives advance shared.iterator read (chunk.next advance mapFn size shared).2.2.iterator ∧
      (chunk.next advance mapFn size shared).1.toList ++
          (chunk.next advance mapFn size shared).2.1.pending mapFn
            (chunk.next advance mapFn size shared).2.2 =
        chunk.pending mapFn shared ++ read.map mapFn := by
  cases chunk with
  | created =>
      cases hfirst : shared.first with
      | none => exact ⟨[], by simp [Chunk.next, Chunk.pending, hfirst, Gives.nil]⟩
      | some first => exact ⟨[], by simp [Chunk.next, Chunk.pending, hfirst, Gives.nil]⟩
  | started left =>
      cases left with
      | zero => exact ⟨[], by simp [Chunk.next, Chunk.pending, Gives.nil]⟩
      | succ left =>
          cases hnext : advance shared.iterator with
          | none => exact ⟨[], by simp [Chunk.next, Chunk.pending, hnext, Gives.nil]⟩
          | some given =>
              exact ⟨[given.1], by
                simpa [Chunk.next, Chunk.pending, hnext] using Gives.single hnext⟩
  | finished => exact ⟨[], by simp [Chunk.next, Chunk.pending, Gives.nil]⟩

def Consumption.pending (mapFn : A → B) (consumption : Consumption S A B) : List B :=
  match consumption.chunks with
  | [] => []
  | (chunk, _) :: _ => chunk.pending mapFn consumption.shared

/-- The invariant of a consumer that finishes every chunk before the next one. -/
structure Consumption.InOrder (advance : S → Option (A × S)) (mapFn : A → B) (size : Nat)
    (start : S) (consumption : Consumption S A B) : Prop where
  earlier_finished : ∀ entry ∈ consumption.chunks.tail, entry.1 = .finished
  sized : ∀ entry ∈ consumption.chunks, entry.1.Sized size entry.2
  gives : ∃ read, Gives advance start read consumption.shared.iterator ∧
    consumption.elements ++ consumption.pending mapFn = read.map mapFn
  exhausted : consumption.exhausted → consumption.AllFinished ∧
    advance consumption.shared.iterator = none

theorem Consumption.pending_of_allFinished {consumption : Consumption S A B}
    (hfinished : consumption.AllFinished) : consumption.pending mapFn = [] := by
  rw [Consumption.pending]
  split
  · rfl
  · next chunk yielded earlier hchunks =>
      have hchunk : chunk = .finished :=
        hfinished (chunk, yielded) (by rw [hchunks]; exact List.mem_cons_self)
      rw [hchunk]
      rfl

theorem inOrder_start (start : S) :
    (Consumption.start start : Consumption S A B).InOrder advance mapFn size start where
  earlier_finished := by simp [Consumption.start]
  sized := by simp [Consumption.start]
  gives := ⟨[], .nil start, rfl⟩
  exhausted := by simp [Consumption.start]

theorem Consumption.InOrder.nextChunk {start : S} {consumption : Consumption S A B}
    (horder : consumption.InOrder advance mapFn size start)
    (hfinished : consumption.AllFinished) :
    (consumption.nextChunk advance).InOrder advance mapFn size start := by
  by_cases hexhausted : consumption.exhausted
  · rw [Consumption.nextChunk, if_pos hexhausted]
    exact horder
  · rw [Consumption.nextChunk, if_neg hexhausted]
    cases hnext : advance consumption.shared.iterator with
    | none =>
        exact
          { earlier_finished := horder.earlier_finished
            sized := horder.sized
            gives := horder.gives
            exhausted := fun _ => ⟨hfinished, hnext⟩ }
    | some given =>
        obtain ⟨read, hread, helements⟩ := horder.gives
        rw [Consumption.pending_of_allFinished hfinished, List.append_nil] at helements
        exact
          { earlier_finished := hfinished
            sized := by
              intro entry hentry
              obtain rfl | hentry := List.mem_cons.mp hentry
              · rfl
              · exact horder.sized entry hentry
            gives := by
              refine ⟨read ++ [given.1], hread.trans (.single hnext), ?_⟩
              rw [List.map_append, ← helements]
              simp [Consumption.elements, Consumption.pending, Chunk.pending]
            exhausted := fun htrue => absurd htrue hexhausted }

/-- Only the newest chunk can still yield. -/
theorem Consumption.nextElement_succ {consumption : Consumption S A B}
    (hearlier : ∀ entry ∈ consumption.chunks.tail, entry.1 = .finished) (index : Nat) :
    consumption.nextElement advance mapFn size (index + 1) = consumption := by
  cases hentry : consumption.chunks[index + 1]? with
  | none => rw [Consumption.nextElement, hentry]
  | some entry =>
      obtain ⟨chunk, yielded⟩ := entry
      have hchunk : chunk = .finished := by
        refine hearlier (chunk, yielded) (List.mem_of_getElem? (i := index) ?_)
        rw [List.getElem?_tail]
        exact hentry
      subst hchunk
      have hset : consumption.chunks.set (index + 1) (.finished, yielded) =
          consumption.chunks := by
        obtain ⟨hlt, hget⟩ := List.getElem?_eq_some_iff.mp hentry
        rw [← hget]
        exact List.set_getElem_self hlt
      simp [Consumption.nextElement, hentry, Chunk.next, hset]

theorem Consumption.InOrder.nextElement (hsize : 1 ≤ size) {start : S}
    {consumption : Consumption S A B} (horder : consumption.InOrder advance mapFn size start)
    (index : Nat) :
    (consumption.nextElement advance mapFn size index).InOrder advance mapFn size start := by
  cases index with
  | succ index =>
      rw [Consumption.nextElement_succ horder.earlier_finished]
      exact horder
  | zero =>
      obtain ⟨shared, exhausted, chunks⟩ := consumption
      cases chunks with
      | nil => exact horder
      | cons entry earlier =>
          obtain ⟨chunk, yielded⟩ := entry
          obtain ⟨read, hread, helements⟩ := horder.gives
          obtain ⟨more, hmore, hyields⟩ := chunk.next_gives advance mapFn size shared
          exact
            { earlier_finished := horder.earlier_finished
              sized := by
                intro entry hentry
                obtain rfl | hentry := List.mem_cons.mp hentry
                · exact Chunk.next_sized hsize (horder.sized _ List.mem_cons_self)
                · exact horder.sized entry (List.mem_cons_of_mem _ hentry)
              gives := by
                refine ⟨read ++ more, hread.trans hmore, ?_⟩
                rw [List.map_append, ← helements]
                simp only [Consumption.elements, Consumption.pending, List.reverse_cons,
                  List.flatMap_append, List.flatMap_singleton, List.append_assoc] at hyields ⊢
                rw [← hyields]
                simp [Consumption.nextElement]
              exhausted := by
                intro hexhausted
                obtain ⟨hfinished, hnone⟩ := horder.exhausted hexhausted
                have hchunk : chunk = .finished := hfinished _ List.mem_cons_self
                subst hchunk
                refine ⟨?_, hnone⟩
                intro entry hentry
                obtain rfl | hentry := List.mem_cons.mp hentry
                · rfl
                · exact hfinished entry (List.mem_cons_of_mem _ hentry) }

theorem Consumed.inOrder (hsize : 1 ≤ size) {start : S} {consumption : Consumption S A B}
    (hconsumed : Consumed advance mapFn size start consumption) :
    consumption.InOrder advance mapFn size start := by
  induction hconsumed with
  | start => exact inOrder_start start
  | chunk _ hfinished ih => exact ih.nextChunk hfinished
  | element index _ ih => exact ih.nextElement hsize index

theorem Consumption.InOrder.losesNothing {start : S} {consumption : Consumption S A B}
    (horder : consumption.InOrder advance mapFn size start) :
    LosesNothing advance mapFn size start consumption := by
  obtain ⟨read, hread, helements⟩ := horder.gives
  have hall : consumption.AllFinished → consumption.elements = read.map mapFn := by
    intro hfinished
    rw [Consumption.pending_of_allFinished hfinished, List.append_nil] at helements
    exact helements
  exact
    { sized := by
        intro entry hentry hfinished
        have hsized := horder.sized entry hentry
        rw [hfinished] at hsized
        exact hsized
      in_order := fun hfinished => ⟨read, hread, hall hfinished⟩
      whole := by
        intro hexhausted
        obtain ⟨hfinished, hnone⟩ := horder.exhausted hexhausted
        exact ⟨read, ⟨_, hread, hnone⟩, hall hfinished⟩ }

end Consumers

/-- `iter` of a list. -/
def listIterator {A : Type u} : List A → Option (A × List A)
  | [] => none
  | first :: rest => some (first, rest)

section Persist

variable {S : Type u} {A : Type v} {B : Type w} {State : Type x} {Error : Type x}

/-- `list(chunk)`, if it ends within so many steps. -/
def listOf (advance : S → Option (A × S)) (mapFn : A → B) (size : Nat) :
    Nat → Chunk → Shared S A → Option (List B × Shared S A)
  | 0, _, _ => none
  | steps + 1, chunk, shared =>
      match chunk.next advance mapFn size shared with
      | (none, _, shared) => some ([], shared)
      | (some element, chunk, shared) =>
          (listOf advance mapFn size steps chunk shared).map fun (elements, shared) =>
            (element :: elements, shared)

/-- `for chunk in chunks(…)`, a list of each chunk handed on before the next one. -/
def forChunks (advance : S → Option (A × S)) (mapFn : A → B) (size : Nat)
    (handOn : State → List B → Except Error State) :
    Nat → Shared S A → State → Option (Except Error State)
  | 0, _, _ => none
  | steps + 1, shared, state =>
      match advance shared.iterator with
      | none => some (.ok state)
      | some (first, iterator) =>
          match listOf advance mapFn size steps .created ⟨iterator, some first⟩ with
          | none => none
          | some (chunkList, shared) =>
              match handOn state chunkList with
              | .error error => some (.error error)
              | .ok state => forChunks advance mapFn size handOn steps shared state

def persistDataPointChunk {V : Type u} (batchSize : Nat) (flattenedKeys : List ExternalId)
    (createDataPoints : State → List (ValidatedData V) → Except Error State)
    (validatedDatas : List (ValidatedData V)) (steps : Nat) (state : State) :
    Option (Except Error State) :=
  forChunks listIterator (setMissingStructureElementsToNone flattenedKeys) batchSize
    createDataPoints steps ⟨validatedDatas, none⟩ state

/-- The batches that a list is cut into. -/
def batches {B : Type w} (size : Nat) (elements : List B) : List (List B) :=
  (List.range ((elements.length + size - 1) / size)).map fun index =>
    (elements.drop (index * size)).take size

@[simp]
theorem batches_nil {size : Nat} (hsize : 1 ≤ size) : batches size ([] : List B) = [] := by
  have hcount : (0 + size - 1) / size = 0 := Nat.div_eq_of_lt (by omega)
  rw [batches, List.length_nil, hcount]
  rfl

theorem batches_cons {size : Nat} (hsize : 1 ≤ size) (first : B) (rest : List B) :
    batches size (first :: rest) =
      (first :: rest.take (size - 1)) :: batches size (rest.drop (size - 1)) := by
  obtain ⟨size, rfl⟩ := Nat.exists_eq_add_of_le' hsize
  have hcount : (rest.length + 1 + (size + 1) - 1) / (size + 1) =
      (rest.length - size + (size + 1) - 1) / (size + 1) + 1 := by
    rw [← Nat.add_div_right _ (Nat.succ_pos size)]
    by_cases hle : size ≤ rest.length
    · congr 1
      omega
    · rw [show rest.length + 1 + (size + 1) - 1 = rest.length + (size + 1) by omega,
        show rest.length - size + (size + 1) - 1 + (size + 1) = size + (size + 1) by omega,
        Nat.add_div_right _ (Nat.succ_pos size), Nat.add_div_right _ (Nat.succ_pos size),
        Nat.div_eq_of_lt (by omega), Nat.div_eq_of_lt (by omega)]
  simp only [batches, List.length_cons, List.length_drop, Nat.add_sub_cancel]
  rw [hcount, List.range_succ_eq_map, List.map_cons, List.map_map]
  congr 1
  · simp
  · refine List.map_congr_left fun index _ => ?_
    have hstart : (index + 1) * (size + 1) = (size + index * (size + 1)) + 1 := by
      rw [Nat.add_one_mul]
      omega
    simp only [Function.comp_apply, Nat.succ_eq_add_one, hstart, List.drop_succ_cons,
      List.drop_drop]

/-- The writes that a task makes are the batches of its data. -/
theorem validatedDatas_chunks {V : Type u} (size : Nat) (task : BulkInsertTaskData V) :
    (task.chunks size).map Write.validatedDatas = batches size task.dataPoints := by
  simp [BulkInsertTaskData.chunks, BulkInsertTaskData.chunk, batches,
    BulkInsertTaskData.dataPoints, Function.comp_def]

theorem flatten_batches {size : Nat} (hsize : 1 ≤ size) (elements : List B) :
    (batches size elements).flatten = elements := by
  induction hlength : elements.length using Nat.strong_induction_on generalizing elements with
  | _ length ih =>
      cases elements with
      | nil => simp [hsize]
      | cons first rest =>
          have hrest : (rest.drop (size - 1)).length < length := by
            rw [← hlength, List.length_drop, List.length_cons]
            omega
          rw [batches_cons hsize, List.flatten_cons, ih _ hrest _ rfl, List.cons_append,
            List.take_append_drop]

theorem sized_of_mem_batches {size : Nat} (hsize : 1 ≤ size) {elements batch : List B}
    (hbatch : batch ∈ batches size elements) : batch ≠ [] ∧ batch.length ≤ size := by
  obtain ⟨index, hindex, rfl⟩ := List.mem_map.mp hbatch
  rw [List.mem_range, Nat.lt_div_iff_mul_lt (by omega)] at hindex
  constructor
  · rw [← List.length_pos_iff, List.length_take, List.length_drop]
    omega
  · exact List.length_take_le _ _

theorem listOf_started (mapFn : A → B) (size left : Nat) (rest : List A) (first : Option A)
    (steps : Nat) (hsteps : rest.length + 1 ≤ steps) :
    listOf listIterator mapFn size steps (.started left) ⟨rest, first⟩ =
      some ((rest.take left).map mapFn, ⟨rest.drop left, first⟩) := by
  induction steps generalizing left rest with
  | zero => omega
  | succ steps ih =>
      cases left with
      | zero => simp [listOf, Chunk.next]
      | succ left =>
          cases rest with
          | nil => simp [listOf, Chunk.next, listIterator]
          | cons more rest =>
              have hrest := ih left rest (by simpa using hsteps)
              simp [listOf, Chunk.next, listIterator, hrest]

theorem listOf_created (mapFn : A → B) (size : Nat) (first : A) (rest : List A) (steps : Nat)
    (hsteps : rest.length + 2 ≤ steps) :
    listOf listIterator mapFn size steps .created ⟨rest, some first⟩ =
      some ((first :: rest.take (size - 1)).map mapFn, ⟨rest.drop (size - 1), some first⟩) := by
  obtain ⟨steps, rfl⟩ := Nat.exists_eq_add_of_le' (show 1 ≤ steps by omega)
  have hstarted := listOf_started mapFn size (size - 1) rest (some first) steps (by omega)
  simp [listOf, Chunk.next, hstarted]

/-- The loop hands on the batches of the mapped list, up to the first that fails. -/
theorem forChunks_eq (mapFn : A → B) {size : Nat} (hsize : 1 ≤ size)
    (handOn : State → List B → Except Error State) (steps : Nat) (elements : List A)
    (first : Option A) (state : State) (hsteps : elements.length + 2 ≤ steps) :
    forChunks listIterator mapFn size handOn steps ⟨elements, first⟩ state =
      some ((batches size (elements.map mapFn)).foldlM handOn state) := by
  induction steps generalizing elements first state with
  | zero => omega
  | succ steps ih =>
      cases elements with
      | nil =>
          simp [forChunks, listIterator, hsize]
          rfl
      | cons element rest =>
          rw [List.length_cons] at hsteps
          have hlist := listOf_created mapFn size element rest steps (by omega)
          have hshorter : (rest.drop (size - 1)).length + 2 ≤ steps := by
            rw [List.length_drop]
            omega
          simp only [forChunks, listIterator, hlist, List.map_cons, batches_cons hsize,
            List.foldlM_cons, ← List.map_take, ← List.map_drop]
          cases hstate : handOn state (mapFn element :: (rest.take (size - 1)).map mapFn) with
          | error error => rfl
          | ok state => exact ih _ _ state hshorter

/-- Chunks that are consumed one after the other are the mapped input, and
`persist_data_point_chunk` hands every element of its batch on once. -/
theorem chunks_lose_nothing {size : Nat} (hsize : 1 ≤ size) :
    (∀ (S : Type u) (A : Type v) (B : Type w) (advance : S → Option (A × S)) (mapFn : A → B)
        (start : S) (consumption : Consumption S A B),
      Consumed advance mapFn size start consumption →
        LosesNothing advance mapFn size start consumption) ∧
    ∀ (V : Type u) (State Error : Type x) (flattenedKeys : List ExternalId)
        (createDataPoints : State → List (ValidatedData V) → Except Error State)
        (validatedDatas : List (ValidatedData V)) (state : State),
      ∃ lists : List (List (ValidatedData V)),
        lists.flatten =
            validatedDatas.map (setMissingStructureElementsToNone flattenedKeys) ∧
          (∀ list ∈ lists, list ≠ [] ∧ list.length ≤ size) ∧
          ∀ steps, validatedDatas.length + 2 ≤ steps →
            persistDataPointChunk size flattenedKeys createDataPoints validatedDatas steps state =
              some (lists.foldlM createDataPoints state) := by
  constructor
  · intro S A B advance mapFn start consumption hconsumed
    exact (hconsumed.inOrder hsize).losesNothing
  · intro V State Error flattenedKeys createDataPoints validatedDatas state
    refine ⟨_, flatten_batches hsize _, fun list hlist => sized_of_mem_batches hsize hlist, ?_⟩
    intro steps hsteps
    exact forChunks_eq _ hsize createDataPoints steps validatedDatas none state hsteps

end Persist

namespace ChunksWitness

/-- Three elements two by two, until the outer generator stops. -/
theorem consumed_three : Consumed listIterator id 2 [1, 2, 3]
    ⟨⟨[], some 3⟩, true, [(.finished, [3]), (.finished, [1, 2])]⟩ := by
  have hfirst : Consumed listIterator id 2 [1, 2, 3]
      ⟨⟨[3], some 1⟩, false, [(.finished, [1, 2])]⟩ := by
    exact .element 0 (.element 0 (.element 0 (.chunk .start
      (by simp [Consumption.AllFinished, Consumption.start]))))
  have hsecond : Consumed listIterator id 2 [1, 2, 3]
      ⟨⟨[], some 3⟩, false, [(.finished, [3]), (.finished, [1, 2])]⟩ :=
    .element 0 (.element 0 (.chunk hfirst (by simp [Consumption.AllFinished])))
  exact .chunk hsecond (by simp [Consumption.AllFinished])

theorem nothing_lost_of_three : LosesNothing listIterator id 2 [1, 2, 3]
    ⟨⟨[], some 3⟩, true, [(.finished, [3]), (.finished, [1, 2])]⟩ :=
  (chunks_lose_nothing.{0, 0, 0, 0} (by decide)).1 _ _ _ _ _ _ _ consumed_three

/-- Chunks that are requested before they are consumed see the variable of the last one. -/
example : (((((Consumption.start [1, 2, 3] : Consumption _ _ Nat).nextChunk listIterator).nextChunk
    listIterator).nextElement listIterator id 2 1).nextElement listIterator id 2 0).elements =
      [2, 2] := by rfl

end ChunksWitness

end Chunks

end NFCompose
