/-
The materialised table as a last-writer-wins register.  A deletion that arrives
after a later one takes the clock of the row back, and what comes in between
revives the row; without such a deletion every arrival order ends in what the
greatest clock prescribes.
-/
import NFCompose.LastWriter
import NFCompose.RowClock

namespace NFCompose

universe u

variable {V : Type u}

def PointOp.IsFull : PointOp V → Prop
  | .write _ isPartial .. => isPartial = false
  | .delete _ => True

instance : (op : PointOp V) → Decidable op.IsFull
  | .write _ isPartial .. => inferInstanceAs (Decidable (isPartial = false))
  | .delete _ => isTrue trivial

/-- The clock of the row is that of the operation which the register holds. -/
def ClockRel (row : Option (MatRow V)) (held : Option (PointOp V)) : Prop :=
  (∀ row' ∈ row, row'.WellClocked) ∧
    row.bind MatRow.clock = held.map PointOp.clock

/-- Two rows have the same status, and the same payload when they are alive. -/
def SameOutcome (ds : DataSeries) (row other : Option (MatRow V)) : Prop :=
  match row, other with
  | none, none => True
  | some row, some other =>
      (row.deletedAt = none ↔ other.deletedAt = none) ∧
        (row.deletedAt = none → ds.payload row.data = ds.payload other.data)
  | _, _ => False

/-- A full write replaces the whole payload. -/
theorem payload_writtenRow_full (ds : DataSeries)
    (payload : List (ExternalId × Option V)) (values : MatRow V)
    (target : Option (MatRow V)) :
    ds.payload (writtenRow (setColumns ds false payload) values target).data =
      ds.payload values.data := by
  cases target with
  | none => rfl
  | some row =>
      rw [DataSeries.payload_eq_iff]
      intro column hcolumn
      have hset : column ∈ setColumns ds false payload := hcolumn
      simp [writtenRow, upsertSet, hset]

theorem newer_iff_of_clockRel {row : Option (MatRow V)}
    {held : Option (PointOp V)} (hrel : ClockRel row held) (clock : Clock) :
    Newer row clock ↔ ∀ op ∈ held, op.clock < clock := by
  cases row with
  | none => cases held <;> simp_all [ClockRel, Newer]
  | some row =>
      obtain ⟨current, hclock⟩ :=
        Option.ne_none_iff_exists'.mp (hrel.1 row rfl).clock_ne_none
      have heq := hrel.2
      rw [Option.bind_some, hclock] at heq
      cases held with
      | none => simp at heq
      | some op =>
          simp only [Option.map_some, Option.some.injEq] at heq
          simp [newer_some hclock, heq]

variable [UploadedFile V]

/-- The row shows what the operation asks for: a deleted row after a deletion,
an alive one with the payload of a full write. -/
def PrescribedBy (ds : DataSeries) (row : MatRow V) : PointOp V → Prop
  | .write data .. => row.deletedAt = none ∧
      ds.payload row.data = ds.payload (dataToInsert ds data.payload)
  | .delete _ => row.deletedAt ≠ none

/-- The final row of a data point is prescribed by the operation with the
greatest clock. -/
def LastWriterWins (ds : DataSeries) (id : DataPointId)
    (requests : List (Modification V)) (final : StorageState V) : Prop :=
  ∀ greatest ∈ requests.filterMap (Modification.on id),
    (∀ op ∈ requests.filterMap (Modification.on id),
      op.clock ≤ greatest.clock) →
    ∃ row, final.materialized.lookup id = some row ∧
      PrescribedBy ds row greatest

/-- The register of the abstract model next to the row of the table. -/
def RegisterRel (ds : DataSeries) (row : Option (MatRow V))
    (held : Option (PointOp V)) : Prop :=
  ClockRel row held ∧
    ∀ op ∈ held, ∃ row' ∈ row, PrescribedBy ds row' op

theorem resultRow_prescribedBy (ds : DataSeries) (target : Option (MatRow V))
    {op : PointOp V} (hfull : op.IsFull) :
    PrescribedBy ds (op.resultRow ds target) op := by
  cases op with
  | write data isPartial clock userId recordSource =>
      have hfalse : isPartial = false := hfull
      subst hfalse
      refine ⟨?_, payload_writtenRow_full ds data.payload _ target⟩
      cases target <;> rfl
  | delete deletion =>
      cases target <;> simp [PrescribedBy, PointOp.resultRow, deletedRow]

/-- One operation that is no stale deletion moves the clock of the row as it
moves the register. -/
theorem clockRel_pointStep (ds : DataSeries) (id : DataPointId)
    (point : PointState V) (held : Option (PointOp V)) (op : PointOp V)
    (hrel : ClockRel point.row held) (hstale : op.NotStale point.row) :
    ClockRel (pointStep ds id point op).row
      (LastWriter.later PointOp.clock held op) := by
  refine ⟨pointStep_wellClocked ds id hrel.1 hstale, ?_⟩
  rw [pointStep_eq ds id hrel.1 hstale]
  have hiff := newer_iff_of_clockRel hrel op.clock
  by_cases hnewer : Newer point.row op.clock
  · rw [if_pos hnewer, LastWriter.later_of_forall_lt (hiff.mp hnewer)]
    simp [resultRow_clock]
  · rw [if_neg hnewer,
      LastWriter.later_of_not_forall_lt (fun hlt => hnewer (hiff.mpr hlt))]
    exact hrel.2

/-- The step lemma: a data point follows the register. -/
theorem registerRel_pointStep (ds : DataSeries) (id : DataPointId)
    (point : PointState V) (held : Option (PointOp V)) (op : PointOp V)
    (hrel : RegisterRel ds point.row held)
    (hcond : op.NotStale point.row ∧ op.IsFull) :
    RegisterRel ds (pointStep ds id point op).row
      (LastWriter.later PointOp.clock held op) := by
  refine ⟨clockRel_pointStep ds id point held op hrel.1 hcond.1, ?_⟩
  rw [pointStep_eq ds id hrel.1.1 hcond.1]
  have hiff := newer_iff_of_clockRel hrel.1 op.clock
  by_cases hnewer : Newer point.row op.clock
  · rw [if_pos hnewer, LastWriter.later_of_forall_lt (hiff.mp hnewer)]
    intro winner hwinner
    rw [Option.mem_some_iff] at hwinner
    subst hwinner
    exact ⟨_, rfl, resultRow_prescribedBy ds point.row hcond.2⟩
  · rw [if_neg hnewer,
      LastWriter.later_of_not_forall_lt (fun hlt => hnewer (hiff.mpr hlt))]
    exact hrel.2

/-- No request of the step deletes the data point by a stale deletion. -/
def NoStaleDeleteOf (id : DataPointId) (state : StorageState V)
    (request : Modification V) : Prop :=
  ∀ op ∈ request.on id, op.NotStale (state.point id).row

instance (id : DataPointId) (state : StorageState V)
    (request : Modification V) : Decidable (NoStaleDeleteOf id state request) :=
  inferInstanceAs (Decidable (∀ op ∈ request.on id, _))

/-- The run lemma: the row of a data point after a run without stale deletions
is related to the latest operation that addressed it. -/
theorem registerRel_run (ds : DataSeries) (id : DataPointId)
    {state : StorageState V} (hfresh : state.materialized.lookup id = none)
    {requests : List (Modification V)}
    (hfull : ∀ op ∈ requests.filterMap (Modification.on id), op.IsFull)
    (hsteps : Runs.AllSteps (modify ds) (NoStaleDeleteOf id) state requests) :
    RegisterRel ds
      ((Runs.run (modify ds) state requests).materialized.lookup id)
      (LastWriter.latest PointOp.clock
        (requests.filterMap (Modification.on id))) := by
  have hpoint := point_run_modify ds id state requests
  have hview := Runs.allSteps_projection
    (fun state : StorageState V => state.point id)
    (fun point op => op.NotStale point.row) (point_modify ds id)
    (fun state request op hop hcond => hcond op hop) hsteps
  have hboth := Runs.allSteps_and_forall hview hfull
  have hinit : RegisterRel ds (state.point id).row none := by
    simp [StorageState.point, hfresh, RegisterRel, ClockRel]
  have hrel := Runs.run_simulation
    (fun (point : PointState V) held => RegisterRel ds point.row held)
    (registerRel_pointStep ds id) hinit hboth
  rw [← hpoint] at hrel
  exact hrel

theorem lastWriterWins_of_registerRel (ds : DataSeries) (id : DataPointId)
    {requests : List (Modification V)} {final : StorageState V}
    (hdistinct : (requests.filterMap (Modification.on id)).Pairwise
      fun a b => a.clock ≠ b.clock)
    (hrel : RegisterRel ds (final.materialized.lookup id)
      (LastWriter.latest PointOp.clock
        (requests.filterMap (Modification.on id)))) :
    LastWriterWins ds id requests final := by
  intro greatest hmem hgreatest
  have hlatest := LastWriter.latest_eq_of_le hdistinct hmem hgreatest
  rw [hlatest] at hrel
  exact hrel.2 greatest rfl

/-- Two rows that follow the same register have the same outcome. -/
theorem sameOutcome_of_registerRel (ds : DataSeries)
    {row other : Option (MatRow V)} {held : Option (PointOp V)}
    (hrow : RegisterRel ds row held) (hother : RegisterRel ds other held) :
    SameOutcome ds row other := by
  cases held with
  | none =>
      have hnone : ∀ row : Option (MatRow V), RegisterRel ds row none →
          row = none := by
        intro row hrel
        cases row with
        | none => rfl
        | some row =>
            exact absurd hrel.1.2 (hrel.1.1 row rfl).clock_ne_none
      rw [hnone row hrow, hnone other hother]
      trivial
  | some op =>
      obtain ⟨row', hmem, hpres⟩ := hrow.2 op rfl
      obtain ⟨other', hmem', hpres'⟩ := hother.2 op rfl
      rw [Option.mem_def] at hmem hmem'
      subst hmem hmem'
      cases op with
      | write data isPartial clock userId recordSource =>
          refine ⟨by simp [hpres.1, hpres'.1], fun _ => ?_⟩
          rw [hpres.2, hpres'.2]
      | delete deletion =>
          simp only [PrescribedBy] at hpres hpres'
          exact ⟨by simp [hpres, hpres'], fun halive => absurd halive hpres⟩

/-- Full writes and deletions with distinct clocks, arriving in any order in
which no deletion is stale: the greatest clock prescribes the row, and two such
orders end alike. -/
theorem arrivals_converge (ds : DataSeries) (id : DataPointId)
    (state : StorageState V) (hfresh : state.materialized.lookup id = none)
    (arrival arrival' : List (Modification V))
    (hperm : arrival.Perm arrival')
    (hfull : ∀ op ∈ arrival.filterMap (Modification.on id), op.IsFull)
    (hdistinct : (arrival.filterMap (Modification.on id)).Pairwise
      fun a b => a.clock ≠ b.clock)
    (hsteps : Runs.AllSteps (modify ds) (NoStaleDeleteOf id) state arrival)
    (hsteps' : Runs.AllSteps (modify ds) (NoStaleDeleteOf id) state arrival') :
    LastWriterWins ds id arrival (Runs.run (modify ds) state arrival) ∧
      SameOutcome ds
        ((Runs.run (modify ds) state arrival).materialized.lookup id)
        ((Runs.run (modify ds) state arrival').materialized.lookup id) := by
  have hops := hperm.filterMap (Modification.on id)
  have hfull' : ∀ op ∈ arrival'.filterMap (Modification.on id), op.IsFull :=
    fun op hop => hfull op (hops.mem_iff.mpr hop)
  have hrel := registerRel_run ds id hfresh hfull hsteps
  have hrel' := registerRel_run ds id hfresh hfull' hsteps'
  rw [← LastWriter.latest_perm hdistinct hops] at hrel'
  exact ⟨lastWriterWins_of_registerRel ds id hdistinct hrel,
    sameOutcome_of_registerRel ds hrel hrel'⟩

namespace ConvergenceWitness

open ModificationWitness

def series : DataSeries :=
  ModificationWitness.series .dynamicSqlNoHistory

/-- Written at 1, deleted at 5; a deletion of time 3 and a write of time 4
arrive late. -/
def lateDeletion : List (Modification String) :=
  [write false [("note", some "old")] 1, delete 5, delete 3,
    write false [("note", some "late")] 4]

/-- The late deletion takes the row back to time 3, so the late write revives
a data point whose latest operation deletes it. -/
theorem lateDeletion_not_lastWriterWins :
    (∀ op ∈ lateDeletion.filterMap (Modification.on "point"), op.IsFull) ∧
      ((lateDeletion.filterMap (Modification.on "point")).Pairwise
        fun a b => a.clock ≠ b.clock) ∧
      ¬ LastWriterWins series "point" lateDeletion
        (Runs.run (modify series) (StorageState.empty [] []) lateDeletion) := by
  refine ⟨by decide, by decide, fun hwins => ?_⟩
  obtain ⟨row, hrow, hdeleted⟩ := hwins
    (.delete ⟨"point", "external", ⟨5, 5⟩, none, "REST"⟩)
    (by simp [lateDeletion, Modification.on, write, delete]) (by decide)
  have halive : ((Runs.run (modify series) (StorageState.empty [] [])
      lateDeletion).materialized.lookup "point").map MatRow.deletedAt =
        some none := by decide
  rw [hrow] at halive
  simp only [Option.map_some, Option.some.injEq] at halive
  exact hdeleted halive

theorem arrivals_converge_reordered :
    let arrival := [write false [("note", some "old")] 1, delete 3, delete 5,
      write false [("note", some "late")] 4]
    let arrival' := [delete 5, write false [("note", some "late")] 4,
      write false [("note", some "old")] 1, delete 3]
    LastWriterWins series "point" arrival
        (Runs.run (modify series) (StorageState.empty [] []) arrival) ∧
      SameOutcome series
        ((Runs.run (modify series) (StorageState.empty [] [])
          arrival).materialized.lookup "point")
        ((Runs.run (modify series) (StorageState.empty [] [])
          arrival').materialized.lookup "point") := by
  refine arrivals_converge series "point" _ rfl _ _ ?_ (by decide)
    (by decide) (by decide) (by decide)
  exact @List.perm_append_comm _
    [write false [("note", some "old")] 1, delete 3]
    [delete 5, write false [("note", some "late")] 4]

end ConvergenceWitness

end NFCompose
