/-
What reaches a data point: requests on it, and prunes of the history.  Which prune removes the
history row of a write is decided by the requests before it, and so is which writes copy the
files of an upload.
-/
import NFCompose.ColumnRuns

namespace NFCompose

universe u

variable {V : Type u}

section Events

/-- What reaches a data point: a request on it, or a prune of the history. -/
inductive PointEvent (V : Type u) where
  | request (op : PointOp V)
  | prune (olderThan : Int)

def PointEvent.op? : PointEvent V → Option (PointOp V)
  | .request op => some op
  | .prune _ => none

def PointEvent.olderThan? : PointEvent V → Option Int
  | .request _ => none
  | .prune olderThan => some olderThan

def requestsOf (events : List (PointEvent V)) : List (PointOp V) :=
  events.filterMap PointEvent.op?

/-- The request at a place of the events. -/
def opAt (events : List (PointEvent V)) (place : Nat) : Option (PointOp V) :=
  events[place]?.bind PointEvent.op?

def boundAt (events : List (PointEvent V)) (place : Nat) : Option Int :=
  events[place]?.bind PointEvent.olderThan?

/-- The last request is a deletion before the bound, so a prune takes the row away. -/
def EndsDeletedBefore (olderThan : Int) (ops : List (PointOp V)) : Prop :=
  ∃ last ∈ ops.getLast?, last.IsDelete ∧ last.clock.pointInTime < olderThan

/-- The columns that a prune compares with: the point in time of the last write, and the sub
clock of the last request. -/
def newestKey (ops : List (PointOp V)) : Option Clock :=
  (ops.filter fun op => ¬ op.IsDelete).getLast?.bind fun write =>
    ops.getLast?.map fun last => ⟨write.clock.pointInTime, last.clock.subClock⟩

/-- After these requests a prune removes the history row of the write with the clock. -/
def PrunesWrite (olderThan : Int) (ops : List (PointOp V)) (clock : Clock) : Prop :=
  clock.pointInTime < olderThan ∧
    (EndsDeletedBefore olderThan ops ∨ ∃ key ∈ newestKey ops, clock < key)

/-- The event at the place is a prune that removes the history row of the write. -/
def PrunedAt (events : List (PointEvent V)) (clock : Clock) (place : Nat) : Prop :=
  ∃ olderThan ∈ boundAt events place,
    PrunesWrite olderThan (requestsOf (events.take place)) clock

/-- Some prune after the one place, up to the other, removes the history row of the write. -/
def PrunedBetween (events : List (PointEvent V)) (clock : Clock) (after upTo : Nat) : Prop :=
  ∃ place ≤ upTo, after < place ∧ PrunedAt events clock place

/-- The event at the place is a prune that takes the deleted row away. -/
def RowGoneAt (events : List (PointEvent V)) (place : Nat) : Prop :=
  ∃ olderThan ∈ boundAt events place,
    EndsDeletedBefore olderThan (requestsOf (events.take place))

instance (olderThan : Int) (ops : List (PointOp V)) :
    Decidable (EndsDeletedBefore olderThan ops) :=
  inferInstanceAs (Decidable (∃ last ∈ ops.getLast?, _))

instance (olderThan : Int) (ops : List (PointOp V)) (clock : Clock) :
    Decidable (PrunesWrite olderThan ops clock) :=
  inferInstanceAs (Decidable (_ ∧ (_ ∨ ∃ key ∈ newestKey ops, _)))

instance (events : List (PointEvent V)) (clock : Clock) (place : Nat) :
    Decidable (PrunedAt events clock place) :=
  inferInstanceAs (Decidable (∃ olderThan ∈ boundAt events place, _))

instance (events : List (PointEvent V)) (clock : Clock) (after upTo : Nat) :
    Decidable (PrunedBetween events clock after upTo) :=
  inferInstanceAs (Decidable (∃ place ≤ upTo, _))

instance (events : List (PointEvent V)) (place : Nat) : Decidable (RowGoneAt events place) :=
  inferInstanceAs (Decidable (∃ olderThan ∈ boundAt events place, _))

/-- A prune removes the history row of the upload while that of the copy is still there. -/
def Outlives (events : List (PointEvent V)) (first second : Nat) (upload copy : PointOp V) :
    Prop :=
  ∃ place < events.length, first < place ∧ PrunedAt events upload.clock place ∧
    ¬ PrunedBetween events copy.clock second place

instance (events : List (PointEvent V)) (first second : Nat) (upload copy : PointOp V) :
    Decidable (Outlives events first second upload copy) :=
  inferInstanceAs (Decidable (∃ place < events.length, _))

variable [UploadedFile V]

def PointOp.Brings (ds : DataSeries) (column : Uuid) (op : PointOp V) : Prop :=
  column ∈ (op.files ds).map Prod.fst

instance (ds : DataSeries) (column : Uuid) (op : PointOp V) : Decidable (op.Brings ds column) :=
  inferInstanceAs (Decidable (_ ∈ _))

/-- The write at the second place copies what the row had in the column after the first place:
no request in between overwrites the column, and the row is not taken away. -/
def Copies (ds : DataSeries) (column : Uuid) (events : List (PointEvent V))
    (first second : Nat) : Prop :=
  first < second ∧ (∃ op ∈ opAt events second, ¬ op.IsDelete) ∧
    (∀ place ≤ second, first < place → ∀ op ∈ opAt events place, ¬ op.Sets ds column) ∧
    ∀ place < second, first < place → ¬ RowGoneAt events place

instance (ds : DataSeries) (column : Uuid) (events : List (PointEvent V)) (first second : Nat) :
    Decidable (Copies ds column events first second) :=
  inferInstanceAs (Decidable (_ ∧ (∃ op ∈ opAt events second, _) ∧ _ ∧ _))

/-- No write that copies an uploaded file outlives the history row of the upload. -/
def NoCopyOutlives (ds : DataSeries) (column : Uuid) (events : List (PointEvent V)) : Prop :=
  ∀ second < events.length, ∀ first < second, Copies ds column events first second →
    ∀ upload ∈ opAt events first, upload.Brings ds column →
      ∀ copy ∈ opAt events second, ¬ Outlives events first second upload copy

instance (ds : DataSeries) (column : Uuid) (events : List (PointEvent V)) :
    Decidable (NoCopyOutlives ds column events) :=
  inferInstanceAs (Decidable (∀ second < events.length, _))

end Events

section Places

variable {events rest : List (PointEvent V)} {event : PointEvent V} {clock : Clock} {place : Nat}

theorem lt_of_opAt {op : PointOp V} (hop : op ∈ opAt events place) : place < events.length := by
  obtain ⟨event, hevent, -⟩ := Option.bind_eq_some_iff.mp hop
  exact (List.getElem?_eq_some_iff.mp hevent).1

theorem mem_requestsOf_of_opAt {op : PointOp V} (hop : op ∈ opAt events place) :
    op ∈ requestsOf events := by
  obtain ⟨event, hevent, hop⟩ := Option.bind_eq_some_iff.mp hop
  exact List.mem_filterMap.mpr ⟨event, List.mem_of_getElem? hevent, hop⟩

theorem lt_of_prunedAt (hpruned : PrunedAt events clock place) : place < events.length := by
  obtain ⟨olderThan, hbound, -⟩ := hpruned
  obtain ⟨event, hevent, -⟩ := Option.bind_eq_some_iff.mp hbound
  exact (List.getElem?_eq_some_iff.mp hevent).1

theorem requestsOf_append : requestsOf (events ++ [event]) =
    requestsOf events ++ event.op?.toList := by
  rw [requestsOf, List.filterMap_append]
  cases hop : event.op? <;> simp [requestsOf, hop]

theorem opAt_append (hplace : place < events.length) :
    opAt (events ++ rest) place = opAt events place := by
  rw [opAt, List.getElem?_append_left hplace, opAt]

theorem boundAt_append (hplace : place < events.length) :
    boundAt (events ++ rest) place = boundAt events place := by
  rw [boundAt, List.getElem?_append_left hplace, boundAt]

theorem prunedAt_append (hplace : place < events.length) :
    PrunedAt (events ++ rest) clock place ↔ PrunedAt events clock place := by
  rw [PrunedAt, boundAt_append hplace, List.take_append_of_le_length hplace.le, PrunedAt]

theorem rowGoneAt_append (hplace : place < events.length) :
    RowGoneAt (events ++ rest) place ↔ RowGoneAt events place := by
  rw [RowGoneAt, boundAt_append hplace, List.take_append_of_le_length hplace.le, RowGoneAt]

theorem opAt_last : opAt (events ++ [event]) events.length = event.op? := by
  rw [opAt, List.getElem?_concat_length, Option.bind_some]

/-- A place of longer events is one of the events, or the place of the new one. -/
theorem lt_or_eq_of_bound {olderThan : Int}
    (hbound : olderThan ∈ boundAt (events ++ [event]) place) :
    place < events.length ∨ (place = events.length ∧ olderThan ∈ event.olderThan?) := by
  obtain ⟨found, hfound, holder⟩ := Option.bind_eq_some_iff.mp hbound
  have hlt := (List.getElem?_eq_some_iff.mp hfound).1
  rw [List.length_append, List.length_singleton] at hlt
  rcases Nat.lt_succ_iff_lt_or_eq.mp hlt with hlt | rfl
  · exact .inl hlt
  · rw [List.getElem?_concat_length, Option.some.injEq] at hfound
    exact .inr ⟨rfl, hfound ▸ holder⟩

theorem prunedAt_concat : PrunedAt (events ++ [event]) clock place ↔
    PrunedAt events clock place ∨ (place = events.length ∧
      ∃ olderThan ∈ event.olderThan?, PrunesWrite olderThan (requestsOf events) clock) := by
  constructor
  · rintro ⟨olderThan, hbound, hprunes⟩
    rcases lt_or_eq_of_bound hbound with hlt | ⟨rfl, hevent⟩
    · exact .inl ((prunedAt_append hlt).mp ⟨olderThan, hbound, hprunes⟩)
    · rw [List.take_left' rfl] at hprunes
      exact .inr ⟨rfl, olderThan, hevent, hprunes⟩
  · rintro (hpruned | ⟨rfl, olderThan, hevent, hprunes⟩)
    · exact (prunedAt_append (lt_of_prunedAt hpruned)).mpr hpruned
    · refine ⟨olderThan, ?_, ?_⟩
      · rw [boundAt, List.getElem?_concat_length, Option.bind_some]
        exact hevent
      · rwa [List.take_left' rfl]

theorem rowGoneAt_concat : RowGoneAt (events ++ [event]) place →
    RowGoneAt events place ∨
      ∃ olderThan ∈ event.olderThan?, EndsDeletedBefore olderThan (requestsOf events) := by
  rintro ⟨olderThan, hbound, hgone⟩
  rcases lt_or_eq_of_bound hbound with hlt | ⟨rfl, hevent⟩
  · exact .inl ((rowGoneAt_append hlt).mp ⟨olderThan, hbound, hgone⟩)
  · rw [List.take_left' rfl] at hgone
    exact .inr ⟨olderThan, hevent, hgone⟩

/-- A request at a place of longer events. -/
theorem opAt_concat {op : PointOp V} (hop : op ∈ opAt (events ++ [event]) place) :
    op ∈ opAt events place ∨ (place = events.length ∧ op ∈ event.op?) := by
  have hlt := lt_of_opAt hop
  rw [List.length_append, List.length_singleton] at hlt
  rcases Nat.lt_succ_iff_lt_or_eq.mp hlt with hlt | rfl
  · exact .inl (opAt_append hlt ▸ hop)
  · exact .inr ⟨rfl, opAt_last ▸ hop⟩

theorem newestKey_write {ops : List (PointOp V)} {op : PointOp V} (hwrite : ¬ op.IsDelete) :
    newestKey (ops ++ [op]) = some op.clock := by
  rw [newestKey, List.filter_append, List.filter_singleton, decide_eq_true hwrite, cond_true,
    List.getLast?_concat, List.getLast?_concat]
  rfl

theorem newestKey_delete {ops : List (PointOp V)} {op : PointOp V} (hdelete : op.IsDelete)
    {key : Clock} (hkey : key ∈ newestKey ops) :
    newestKey (ops ++ [op]) = some ⟨key.pointInTime, op.clock.subClock⟩ := by
  obtain ⟨write, hwrite, hlast⟩ := Option.bind_eq_some_iff.mp hkey
  obtain ⟨last, -, rfl⟩ := Option.map_eq_some_iff.mp hlast
  rw [newestKey, List.filter_append, List.filter_singleton,
    decide_eq_false (not_not_intro hdelete), cond_false, List.append_nil, hwrite,
    List.getLast?_concat]
  rfl

variable {ds : DataSeries} {column : Uuid} {first second : Nat}

theorem copies_append (hsecond : second < events.length) :
    Copies ds column (events ++ rest) first second ↔ Copies ds column events first second := by
  rw [Copies, Copies, opAt_append hsecond]
  refine and_congr_right fun _ => and_congr_right fun _ => and_congr ?_ ?_
  · refine forall₂_congr fun place hle => ?_
    rw [opAt_append (lt_of_le_of_lt hle hsecond)]
  · refine forall₂_congr fun place hlt => ?_
    rw [rowGoneAt_append (hlt.trans hsecond)]

/-- The condition on a run is one on its beginnings. -/
theorem noCopyOutlives_of_append [UploadedFile V]
    (hnone : NoCopyOutlives ds column (events ++ rest)) : NoCopyOutlives ds column events := by
  intro second hsecond first hfirst hcopies upload hupload hbrings copy hcopy
  rintro ⟨place, hplace, hafter, hpruned, hkept⟩
  have hlonger : ∀ place < events.length, place < (events ++ rest).length := by
    intro place hplace
    rw [List.length_append]
    exact Nat.lt_add_right _ hplace
  have hlongerCopies : Copies ds column (events ++ rest) first second :=
    (copies_append hsecond).mpr hcopies
  refine hnone second (hlonger second hsecond) first hfirst hlongerCopies upload ?_ hbrings copy ?_
    ⟨place, hlonger place hplace, hafter, ?_, ?_⟩
  · rwa [opAt_append (hfirst.trans hsecond)]
  · rwa [opAt_append hsecond]
  · exact (prunedAt_append hplace).mpr hpruned
  · rintro ⟨earlier, hle, hlater, hearlier⟩
    exact hkept ⟨earlier, hle, hlater,
      (prunedAt_append (lt_of_le_of_lt hle hplace)).mp hearlier⟩

end Places

end NFCompose
