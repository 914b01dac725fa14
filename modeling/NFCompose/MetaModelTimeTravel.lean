/-
Time travel in the meta model: the managers of soft deletable rows and the
context that sets the point in time that they should show.
-/
import NFCompose.Runs
import NFCompose.DataModel

namespace NFCompose

/-- A row of a meta model table. -/
structure MetaModelRow where
  tenantId : Uuid
  pointInTime : Int
  deletedAt : Option Int
deriving DecidableEq, Repr

abbrev MetaModelTable := AList fun _ : Uuid => MetaModelRow

abbrev MetaModelEntry := (_ : Uuid) × MetaModelRow

inductive MetaModelOp where
  | create (id tenantId : Uuid) (now : Int)
  | delete (id : Uuid) (now : Int)
deriving DecidableEq, Repr

/-- `SoftDeletionModel.delete` does not change the time of a deletion. -/
def softDelete (now : Int) (row : MetaModelRow) : MetaModelRow :=
  if row.deletedAt = none then { row with deletedAt := some now } else row

def metaModelStep (table : MetaModelTable) : MetaModelOp → MetaModelTable
  | .create id tenantId now =>
      if id ∈ table then table else table.insert id ⟨tenantId, now, none⟩
  | .delete id now =>
      match table.lookup id with
      | some row => table.insert id (softDelete now row)
      | none => table

/-- A manager; `prefilterQueryset` is given the point of the time travel. -/
structure Manager where
  aliveOnly : Bool
  prefilterQueryset : Option Int → List MetaModelEntry → List MetaModelEntry

/-- The rows of the current tenant, if one is set. -/
def OfTenant (currentTenant : Option Uuid) (entry : MetaModelEntry) : Prop :=
  ∀ tenant ∈ currentTenant, entry.2.tenantId = tenant

instance (currentTenant : Option Uuid) (entry : MetaModelEntry) :
    Decidable (OfTenant currentTenant entry) :=
  inferInstanceAs (Decidable (∀ tenant ∈ currentTenant, _))

def tenantQueryset (currentTenant : Option Uuid) (table : MetaModelTable) : List MetaModelEntry :=
  table.entries.filter fun entry => OfTenant currentTenant entry

/-- `SoftDeletionManager.get_queryset`. -/
def softDeletionGetQueryset (manager : Manager) (point : Option Int)
    (qs : List MetaModelEntry) : List MetaModelEntry :=
  manager.prefilterQueryset point qs

/-- `SoftDeletionTenantManager.get_queryset`, which filters by itself. -/
def softDeletionTenantGetQueryset (manager : Manager) (currentTenant : Option Uuid)
    (table : MetaModelTable) : List MetaModelEntry :=
  let qs := tenantQueryset currentTenant table
  if manager.aliveOnly then qs.filter fun entry => entry.2.deletedAt = none else qs

/-- The row was there at a point in time. -/
def ExistedAt (point : Int) (entry : MetaModelEntry) : Prop :=
  (entry.2.deletedAt = none ∨ ∃ deletedAt ∈ entry.2.deletedAt, point < deletedAt) ∧
    entry.2.pointInTime ≤ point

instance (point : Int) (entry : MetaModelEntry) : Decidable (ExistedAt point entry) :=
  inferInstanceAs (Decidable (_ ∧ _))

/-- `MetaModelSoftDeletionManager`. -/
def metaModelSoftDeletionManager : Manager where
  aliveOnly := true
  prefilterQueryset timetravelPoint qs :=
    match timetravelPoint with
    | none => qs.filter fun entry => entry.2.deletedAt = none
    | some point => qs.filter fun entry => ExistedAt point entry

/-- `objects`: the manager inherits its queryset from the tenant manager, which
does not ask for the point of the time travel. -/
def objects (currentTenant : Option Uuid) (table : MetaModelTable) (_point : Option Int) :
    List MetaModelEntry :=
  softDeletionTenantGetQueryset metaModelSoftDeletionManager currentTenant table

/-- Code around the thread local: it looks at `objects`, raises, catches and
opens contexts of its own. -/
inductive Block where
  | done
  | raise
  | look (rest : Block)
  | attempt (body rest : Block)
  | timetravel (pointInTime : Int) (body rest : Block)
deriving DecidableEq, Repr

/-- The thread local and the views that were seen when a block is left. -/
structure Exit (View : Type) where
  point : Option Int
  raised : Bool
  views : List View
deriving DecidableEq, Repr

def Exit.after {View : Type} (views : List View) (exit : Exit View) : Exit View :=
  { exit with views := views ++ exit.views }

def Block.run {View : Type} (view : Option Int → View) : Block → Option Int → Exit View
  | .done, point => ⟨point, false, []⟩
  | .raise, point => ⟨point, true, []⟩
  | .look rest, point => (rest.run view point).after [view point]
  | .attempt body rest, point =>
      let inner := body.run view point
      (rest.run view inner.point).after inner.views
  | .timetravel pointInTime body rest, point =>
      let oldPointInTimeValue := point
      let inner := body.run view (some pointInTime)
      if inner.raised then
        { inner with point := oldPointInTimeValue }
      else (rest.run view oldPointInTimeValue).after inner.views

/-- Leaving a block restores the point of the time travel, whichever way it is
left. -/
theorem run_point {View : Type} (view : Option Int → View) (block : Block) (point : Option Int) :
    (block.run view point).point = point := by
  induction block generalizing point with
  | done => rfl
  | raise => rfl
  | look rest ih => exact ih point
  | attempt body rest ihBody ihRest =>
      rw [Block.run, ihBody]
      exact ihRest point
  | timetravel pointInTime body rest ihBody ihRest =>
      rw [Block.run]
      split
      · rfl
      · exact ihRest point

/-- What time travel promises for a point in time. -/
structure TimeTravelLaw (currentTenant : Option Uuid) (table : MetaModelTable) (point : Int) :
    Prop where
  visible : ∀ entry, entry ∈ objects currentTenant table (some point) ↔
    entry ∈ table.entries ∧ OfTenant currentTenant entry ∧ ExistedAt point entry
  restored : ∀ (block : Block) (enclosing : Option Int),
    (block.run (objects currentTenant table) enclosing).point = enclosing

/-- A manager that asks for the point, as the one without tenants does, would
show the rows of the point. -/
theorem mem_softDeletionGetQueryset (currentTenant : Option Uuid) (table : MetaModelTable)
    (point : Int) (entry : MetaModelEntry) :
    entry ∈ softDeletionGetQueryset metaModelSoftDeletionManager (some point)
        (tenantQueryset currentTenant table) ↔
      entry ∈ table.entries ∧ OfTenant currentTenant entry ∧ ExistedAt point entry := by
  simp only [softDeletionGetQueryset, metaModelSoftDeletionManager, tenantQueryset,
    List.mem_filter, decide_eq_true_eq, and_assoc]

theorem mem_objects {currentTenant : Option Uuid} {table : MetaModelTable} {point : Option Int}
    {entry : MetaModelEntry} :
    entry ∈ objects currentTenant table point ↔
      entry ∈ table.entries ∧ OfTenant currentTenant entry ∧ entry.2.deletedAt = none := by
  simp only [objects, softDeletionTenantGetQueryset, metaModelSoftDeletionManager,
    tenantQueryset, if_true, List.mem_filter, decide_eq_true_eq, and_assoc]

/-- Since the point, no row of the tenant was created that is still there, and
none of the rows from before was deleted. -/
def UnchangedSince (currentTenant : Option Uuid) (table : MetaModelTable) (point : Int) : Prop :=
  ∀ entry ∈ table.entries, OfTenant currentTenant entry →
    (entry.2.deletedAt = none → entry.2.pointInTime ≤ point) ∧
      ∀ deletedAt ∈ entry.2.deletedAt, entry.2.pointInTime ≤ point → deletedAt ≤ point

/-- Being alive and having existed at the point are the same for a row exactly
when nothing has happened to it since. -/
theorem alive_iff_existedAt (point : Int) (entry : MetaModelEntry) :
    (entry.2.deletedAt = none ↔ ExistedAt point entry) ↔
      (entry.2.deletedAt = none → entry.2.pointInTime ≤ point) ∧
        ∀ deletedAt ∈ entry.2.deletedAt, entry.2.pointInTime ≤ point → deletedAt ≤ point := by
  cases hdeleted : entry.2.deletedAt with
  | none => simp [ExistedAt, hdeleted]
  | some deletedAt =>
      simp only [ExistedAt, hdeleted, reduceCtorEq, false_iff, false_or, Option.mem_def,
        Option.some.injEq, exists_eq_left', forall_eq', false_implies, true_and, not_and]
      omega

/-- The manager shows what one that asks for the point would show, exactly when the tenant's
rows have not changed since. -/
theorem objects_agree_iff (currentTenant : Option Uuid) (table : MetaModelTable) (point : Int) :
    (∀ entry, entry ∈ objects currentTenant table (some point) ↔
      entry ∈ softDeletionGetQueryset metaModelSoftDeletionManager (some point)
        (tenantQueryset currentTenant table)) ↔
      UnchangedSince currentTenant table point := by
  simp only [mem_objects, mem_softDeletionGetQueryset]
  constructor
  · intro hagree entry hentry htenant
    rw [← alive_iff_existedAt]
    simpa [hentry, htenant] using hagree entry
  · intro hunchanged entry
    apply and_congr_right
    intro hentry
    apply and_congr_right
    intro htenant
    exact (alive_iff_existedAt point entry).mpr (hunchanged entry hentry htenant)

/-- Time travel shows the rows of a point in time exactly when the tenant's rows
have not changed since. -/
theorem timeTravelLaw_iff (currentTenant : Option Uuid) (ops : List MetaModelOp) (point : Int) :
    TimeTravelLaw currentTenant (Runs.run metaModelStep ∅ ops) point ↔
      UnchangedSince currentTenant (Runs.run metaModelStep ∅ ops) point := by
  rw [← objects_agree_iff]
  constructor
  · intro hlaw entry
    rw [mem_softDeletionGetQueryset]
    exact hlaw.visible entry
  · intro hagree
    refine ⟨fun entry => ?_, fun block enclosing => run_point _ block enclosing⟩
    rw [hagree entry, mem_softDeletionGetQueryset]

namespace TimeTravelWitness

/-- A row that was created at time 1 and deleted at time 5. -/
def deletedLater : List MetaModelOp := [.create "fact" "tenant" 1, .delete "fact" 5]

theorem deletedLater_not_visible :
    ¬ TimeTravelLaw (some "tenant") (Runs.run metaModelStep ∅ deletedLater) 3 := by
  intro hlaw
  have hvisible := (hlaw.visible ⟨"fact", "tenant", 1, some 5⟩).mpr
    ⟨by decide, by decide, by decide⟩
  exact absurd hvisible (by decide)

/-- An exception leaves two nested contexts, and the view is the former one. -/
example : (Block.run id (.attempt (.timetravel 3 (.look (.timetravel 5 (.look .raise) .done))
    .done) (.look .done)) none) = ⟨none, false, [some 3, some 5, none]⟩ := by
  decide

end TimeTravelWitness

end NFCompose
