/-
Diffs of lists: the definitions below a data series, and the data points of a
data series.  Applying the operations of a diff one after the other turns the
base into the target.
-/
import Mathlib.Data.List.Dedup
import NFCompose.StructureDiff

namespace NFCompose

open KeyedDiff PartialRuns

section Definitions

variable {P : Type} [DecidableEq P]

/-- The operations can be applied in their order and end in what is asked for,
and none of them is needless. -/
structure PatchesDefinitions (deleteMissing : Bool)
    (recreateInsteadOfUpdate : Identifiable P → Identifiable P → Bool)
    (base target : List (Identifiable P))
    (operations : List (KeyOperation ExternalId (Identifiable P))) : Prop where
  applied : ∃ patched,
    attempt applyOperation (toDict Identifiable.externalId base) operations = some patched ∧
      ∀ externalId elem, patched.lookup externalId = some elem ↔
        elem.externalId = externalId ∧ (elem ∈ target ∨
          deleteMissing = false ∧ elem ∈ base ∧ ∀ other ∈ target, other.externalId ≠ externalId)
  unchanged : ∀ elem ∈ base, elem ∈ target →
    ∀ operation ∈ operations, operation.key ≠ elem.externalId
  once : ∀ externalId,
    (operations.filter fun operation => operation.key = externalId).length ≤ 1 ∨
      ∃ old ∈ base, ∃ new ∈ target, old.externalId = externalId ∧ new.externalId = externalId ∧
        old ≠ new ∧ recreateInsteadOfUpdate old new = true ∧
        ∃ before after,
          operations = before ++ [⟨.delete, externalId, old⟩, ⟨.create, externalId, new⟩] ++ after ∧
          ∀ operation ∈ before ++ after, operation.key ≠ externalId

variable {base target : List (Identifiable P)}

omit [DecidableEq P] in
/-- What the patched dictionary holds, in terms of the lists. -/
theorem patched_lookup (deleteMissing : Bool)
    (hbase : (base.map Identifiable.externalId).Nodup)
    (htarget : (target.map Identifiable.externalId).Nodup)
    (externalId : ExternalId) (elem : Identifiable P) :
    ((toDict Identifiable.externalId target).lookup externalId).or
        (if deleteMissing then none else (toDict Identifiable.externalId base).lookup externalId) =
        some elem ↔
      elem.externalId = externalId ∧ (elem ∈ target ∨
        deleteMissing = false ∧ elem ∈ base ∧ ∀ other ∈ target, other.externalId ≠ externalId) := by
  cases hlookup : (toDict Identifiable.externalId target).lookup externalId with
  | none =>
      have hnone := lookup_toDict_eq_none.mp hlookup
      have hout : elem.externalId = externalId → elem ∉ target := fun hid hmem =>
        hnone elem hmem hid
      cases deleteMissing with
      | true =>
          simp only [↓reduceIte, Option.or_none, reduceCtorEq, Bool.true_eq_false, false_and,
            or_false, false_iff, not_and]
          exact hout
      | false =>
          simp only [Bool.false_eq_true, ↓reduceIte, Option.none_or, lookup_toDict hbase]
          constructor
          · rintro ⟨hmem, hid⟩
            exact ⟨hid, Or.inr ⟨trivial, hmem, hnone⟩⟩
          · rintro ⟨hid, hmem | ⟨-, hmem, -⟩⟩
            · exact absurd hmem (hout hid)
            · exact ⟨hmem, hid⟩
  | some next =>
      obtain ⟨hmem, hid⟩ := (lookup_toDict htarget).mp hlookup
      rw [Option.some_or, Option.some.injEq]
      constructor
      · rintro rfl
        exact ⟨hid, Or.inl hmem⟩
      · rintro ⟨helemId, helem | ⟨-, -, hnone⟩⟩
        · exact List.inj_on_of_nodup_map htarget hmem helem (hid.trans helemId.symm)
        · exact absurd hid (hnone next hmem)

/-- An external id has no operation, one, or the two of a recreation. -/
theorem diffAt_once (deleteMissing : Bool)
    (recreate : Identifiable P → Identifiable P → Bool) (externalId : ExternalId)
    (old new : Option (Identifiable P)) :
    (diffAt deleteMissing (recreateOrUpdate recreate) externalId old new).length ≤ 1 ∨
      ∃ before after, old = some before ∧ new = some after ∧ before ≠ after ∧
        recreate before after = true ∧
        diffAt deleteMissing (recreateOrUpdate recreate) externalId old new =
          [⟨.delete, externalId, before⟩, ⟨.create, externalId, after⟩] := by
  cases old with
  | none => cases new <;> exact Or.inl (by simp [diffAt])
  | some before =>
      cases new with
      | none => cases deleteMissing <;> exact Or.inl (by simp [diffAt])
      | some after =>
          by_cases heq : after = before
          · exact Or.inl (by simp [diffAt, heq])
          · cases hrecreate : recreate before after with
            | false => exact Or.inl (by simp [diffAt, recreateOrUpdate, heq, hrecreate])
            | true =>
                right
                refine ⟨before, after, rfl, rfl, fun h => heq h.symm, hrecreate, ?_⟩
                simp [diffAt, recreateOrUpdate, heq, hrecreate]

/-- Whatever the order in which the sets are iterated, a diff of lists with
unique external ids is a patch without needless operations. -/
theorem listDiffDataseriesChild_patches (sets : SetOrder ExternalId)
    (base target : List (Identifiable P))
    (hbase : (base.map Identifiable.externalId).Nodup)
    (htarget : (target.map Identifiable.externalId).Nodup) (deleteMissing : Bool)
    (recreateInsteadOfUpdate : Identifiable P → Identifiable P → Bool) :
    PatchesDefinitions deleteMissing recreateInsteadOfUpdate base target
        (listDiffDataseriesChild sets base target deleteMissing recreateInsteadOfUpdate) ∧
      listDiffDataseriesChild sets base base deleteMissing recreateInsteadOfUpdate = [] := by
  refine ⟨⟨?_, ?_, ?_⟩, diff_self sets deleteMissing _ _⟩
  · obtain ⟨patched, hattempt, hlookup⟩ := attempt_diff sets deleteMissing
      recreateInsteadOfUpdate (toDict Identifiable.externalId base)
      (toDict Identifiable.externalId target)
    refine ⟨patched, hattempt, ?_⟩
    intro externalId elem
    rw [hlookup, patched_lookup deleteMissing hbase htarget]
  · intro elem helem helem' operation hoperation hkey
    rw [listDiffDataseriesChild, mem_diff, hkey, (lookup_toDict hbase).mpr ⟨helem, rfl⟩,
      (lookup_toDict htarget).mpr ⟨helem', rfl⟩] at hoperation
    simp [diffAt] at hoperation
  · intro externalId
    rw [listDiffDataseriesChild, diff_filter_key]
    refine (diffAt_once deleteMissing recreateInsteadOfUpdate externalId _ _).imp_right ?_
    rintro ⟨old, new, hold, hnew, hne, hrecreate, hdiff⟩
    obtain ⟨hmem, hid⟩ := (lookup_toDict hbase).mp hold
    obtain ⟨hmem', hid'⟩ := (lookup_toDict htarget).mp hnew
    obtain ⟨before, after, hsplit, hothers⟩ := exists_diff_split sets deleteMissing
      (recreateOrUpdate recreateInsteadOfUpdate) (toDict Identifiable.externalId base)
      (toDict Identifiable.externalId target) externalId
    rw [hdiff] at hsplit
    exact ⟨old, hmem, new, hmem', hid, hid', hne, hrecreate, before, after, hsplit, hothers⟩

namespace ListDiffWitness

/-- The dimension with another reference is recreated, the new one created and
the missing one deleted. -/
theorem dimensions_patched :
    let base : List (Identifiable String) := [⟨"customer", "customers"⟩, ⟨"shop", "shops"⟩]
    let target : List (Identifiable String) := [⟨"customer", "people"⟩, ⟨"day", "days"⟩]
    PatchesDefinitions true (fun old new => old.content ≠ new.content) base target
        (listDiffDataseriesChild (.identity _) base target true
          fun old new => old.content ≠ new.content) ∧
      listDiffDataseriesChild (.identity _) base base true
        (fun old new => old.content ≠ new.content) = [] :=
  listDiffDataseriesChild_patches (.identity _) _ _ (by decide) (by decide) true _

end ListDiffWitness

end Definitions

namespace ComposeClient

/-- A data point of a dump; the equality of payloads is that of dictionaries. -/
structure DataPoint (P : Type) where
  externalId : ExternalId
  payload : P
  identifyDimensionsByExternalId : Bool
deriving DecidableEq, Repr

structure DataPointOperation (P : Type) where
  operationType : OperationType
  datapoint : DataPoint P
deriving DecidableEq, Repr

inductive DiffError where
  | valueError (message : String)
  | notImplementedError (message : String)
deriving DecidableEq, Repr

/-- The elements of a data series under their types. -/
abbrev DataSeriesStructure (C : Type) :=
  (type : StructureType) → List (Identifiable (Content C (.element type)))

variable {C P : Type} [DecidableEq P] (dataseriesStructure : DataSeriesStructure C)

/-- The condition under which `diff_datapoint` refuses to compare. -/
def HasFiles : Prop :=
  (dataseriesStructure (.fact .file)).length ≠ 0 ∨ (dataseriesStructure (.fact .image)).length ≠ 0

instance : Decidable (HasFiles dataseriesStructure) := inferInstanceAs (Decidable (_ ∨ _))

def diffDatapoint (baseDatapoint targetDatapoint : DataPoint P) : Except DiffError Bool :=
  if HasFiles dataseriesStructure then
    throw (.notImplementedError "filefacts and imagefacts are not supported yet")
  else return baseDatapoint ≠ targetDatapoint

/-- The loop over the targets: the updates, and what is left of the base. -/
def diffTargets : List (DataPoint P) → (AList fun _ : ExternalId => DataPoint P) →
    Except DiffError (List (DataPointOperation P) × AList fun _ : ExternalId => DataPoint P)
  | [], base => return ([], base)
  | target :: rest, base =>
      match base.lookup target.externalId with
      | some baseDatapoint => do
          let differs ← diffDatapoint dataseriesStructure baseDatapoint target
          let (updates, remaining) ← diffTargets rest (base.erase target.externalId)
          return (if differs then ⟨.update, target⟩ :: updates else updates, remaining)
      | none => do
          let (updates, remaining) ← diffTargets rest base
          return (⟨.create, target⟩ :: updates, remaining)

/-- A deletion has an empty payload. -/
def deletion [EmptyCollection P] (externalId : ExternalId) : DataPointOperation P :=
  ⟨.delete, ⟨externalId, ∅, true⟩⟩

/-- An association list has its newest key first. -/
def diffDatapointList [EmptyCollection P] (baseDatapoints targetDatapoints : List (DataPoint P)) :
    Except DiffError (List (DataPointOperation P)) := do
  let baseExternalIds := (baseDatapoints.map DataPoint.externalId).dedup
  let targetExternalIds := (targetDatapoints.map DataPoint.externalId).dedup
  if baseExternalIds.length ≠ baseDatapoints.length then
    throw (.valueError "there are multiples of the same external_id in base")
  if targetExternalIds.length ≠ targetDatapoints.length then
    throw (.valueError "there are multiples of the same external_id in target")
  let (updates, remaining) ←
    diffTargets dataseriesStructure targetDatapoints (toDict DataPoint.externalId baseDatapoints)
  return updates ++ remaining.keys.reverse.map deletion

section Loop

variable {dataseriesStructure : DataSeriesStructure C}

/-- The operations of the loop for one external id. -/
def operationsAt (base target : Option (DataPoint P)) : List (DataPointOperation P) :=
  match base, target with
  | none, some target => [⟨.create, target⟩]
  | some base, some target => if base ≠ target then [⟨.update, target⟩] else []
  | _, none => []

/-- Without a comparison that it refuses, the loop goes through. -/
theorem diffTargets_eq_ok {targets : List (DataPoint P)}
    {base : AList fun _ : ExternalId => DataPoint P}
    (hnodup : (targets.map DataPoint.externalId).Nodup)
    (hcompared : HasFiles dataseriesStructure → ∀ target ∈ targets, target.externalId ∉ base) :
    ∃ updates remaining, diffTargets dataseriesStructure targets base = .ok (updates, remaining) ∧
      (∀ externalId,
        updates.filter (fun operation => operation.datapoint.externalId = externalId) =
          operationsAt (base.lookup externalId)
            (targets.find? fun target => target.externalId = externalId)) ∧
      ∀ externalId, remaining.lookup externalId =
        if externalId ∈ targets.map DataPoint.externalId then none
        else base.lookup externalId := by
  induction targets generalizing base with
  | nil =>
      refine ⟨[], base, rfl, ?_, ?_⟩
      · intro externalId
        cases hlookup : base.lookup externalId <;> rfl
      · intro externalId
        rfl
  | cons target rest ih =>
      rw [List.map_cons, List.nodup_cons] at hnodup
      have hnone : rest.find? (fun other => other.externalId = target.externalId) = none := by
        rw [List.find?_eq_none]
        intro other hother heq
        apply hnodup.1
        rw [← of_decide_eq_true heq]
        exact List.mem_map_of_mem hother
      cases hlookup : base.lookup target.externalId with
      | none =>
          obtain ⟨updates, remaining, hok, hupdates, hremaining⟩ := ih hnodup.2
            fun hfiles other hother => hcompared hfiles other (List.mem_cons_of_mem target hother)
          refine ⟨⟨.create, target⟩ :: updates, remaining, ?_, ?_, ?_⟩
          · rw [diffTargets, hlookup]
            simp only [hok]
            rfl
          · intro externalId
            by_cases heq : target.externalId = externalId
            · subst heq
              have hrest := hupdates target.externalId
              rw [hnone, hlookup] at hrest
              simp [hrest, hlookup, operationsAt]
            · simp [heq, hupdates externalId]
          · intro externalId
            rw [hremaining externalId]
            by_cases heq : externalId = target.externalId
            · subst heq
              simp [hnodup.1, hlookup]
            · simp [heq]
      | some baseDatapoint =>
          have hfiles : ¬ HasFiles dataseriesStructure := by
            intro hfiles
            have habsent := hcompared hfiles target List.mem_cons_self
            rw [← AList.lookup_eq_none, hlookup] at habsent
            cases habsent
          obtain ⟨updates, remaining, hok, hupdates, hremaining⟩ :=
            @ih (base.erase target.externalId) hnodup.2 fun h => absurd h hfiles
          refine ⟨if baseDatapoint ≠ target then ⟨.update, target⟩ :: updates else updates,
            remaining, ?_, ?_, ?_⟩
          · rw [diffTargets, hlookup]
            simp only [diffDatapoint, if_neg hfiles, hok, bind, Except.bind, pure,
              Except.pure, decide_eq_true_eq]
          · intro externalId
            by_cases heq : target.externalId = externalId
            · subst heq
              have hrest := hupdates target.externalId
              rw [hnone, AList.lookup_erase] at hrest
              have hrest : updates.filter (fun operation =>
                  operation.datapoint.externalId = target.externalId) = [] := hrest
              by_cases hsame : baseDatapoint = target <;>
                simp [hsame, hrest, hlookup, operationsAt]
            · have hrest := hupdates externalId
              rw [AList.lookup_erase_ne fun h => heq h.symm] at hrest
              by_cases hsame : baseDatapoint = target <;> simp [hsame, heq, hrest]
          · intro externalId
            rw [hremaining externalId]
            by_cases heq : externalId = target.externalId
            · subst heq
              simp
            · simp [heq, AList.lookup_erase_ne heq]

/-- A comparison with image or file facts ends the loop. -/
theorem diffTargets_eq_error {targets : List (DataPoint P)}
    {base : AList fun _ : ExternalId => DataPoint P} (hfiles : HasFiles dataseriesStructure)
    (hshared : ∃ target ∈ targets, target.externalId ∈ base) :
    diffTargets dataseriesStructure targets base =
      .error (.notImplementedError "filefacts and imagefacts are not supported yet") := by
  induction targets with
  | nil =>
      obtain ⟨target, hmem, -⟩ := hshared
      cases hmem
  | cons target rest ih =>
      rw [diffTargets]
      cases hlookup : base.lookup target.externalId with
      | some baseDatapoint =>
          simp only [diffDatapoint, if_pos hfiles]
          rfl
      | none =>
          have hrest : ∃ other ∈ rest, other.externalId ∈ base := by
            obtain ⟨other, hother, hmem⟩ := hshared
            rcases List.mem_cons.mp hother with rfl | hother
            · rw [← AList.lookup_isSome, hlookup] at hmem
              cases hmem
            · exact ⟨other, hother, hmem⟩
          simp only [ih hrest]
          rfl

end Loop

/-- The payloads under their external ids. -/
def payloads (datapoints : List (DataPoint P)) : AList fun _ : ExternalId => P :=
  datapoints.foldl (fun dict datapoint => dict.insert datapoint.externalId datapoint.payload) ∅

def DataPointOperation.onPayloads (operation : DataPointOperation P) :
    KeyOperation ExternalId P :=
  ⟨operation.operationType, operation.datapoint.externalId, operation.datapoint.payload⟩

/-- The operations turn the payloads of the base into those of the target, and
none of them is needless. -/
structure PatchesDatapoints (base target : List (DataPoint P))
    (operations : List (DataPointOperation P)) : Prop where
  applied : ∃ patched, attempt applyOperation (payloads base)
      (operations.map DataPointOperation.onPayloads) = some patched ∧
    ∀ externalId, patched.lookup externalId = (payloads target).lookup externalId
  unchanged : ∀ datapoint ∈ base, datapoint ∈ target →
    ∀ operation ∈ operations, operation.datapoint.externalId ≠ datapoint.externalId
  once : (operations.map fun operation => operation.datapoint.externalId).Nodup

section Payloads

variable {base target : List (DataPoint P)}

omit [DecidableEq P] in
theorem lookup_payloads (datapoints : List (DataPoint P)) (externalId : ExternalId) :
    (payloads datapoints).lookup externalId =
      ((toDict DataPoint.externalId datapoints).lookup externalId).map DataPoint.payload := by
  have hfold : ∀ (dict : AList fun _ : ExternalId => P)
      (points : AList fun _ : ExternalId => DataPoint P),
      dict.lookup externalId = (points.lookup externalId).map DataPoint.payload →
      (datapoints.foldl (fun dict datapoint =>
        dict.insert datapoint.externalId datapoint.payload) dict).lookup externalId =
      ((datapoints.foldl (fun dict datapoint =>
        dict.insert datapoint.externalId datapoint) points).lookup externalId).map
          DataPoint.payload := by
    induction datapoints with
    | nil => exact fun _ _ hdict => hdict
    | cons head tail ih =>
        intro dict points hdict
        apply ih
        by_cases hkey : externalId = head.externalId
        · subst hkey
          rw [AList.lookup_insert, AList.lookup_insert, Option.map_some]
        · rw [AList.lookup_insert_ne hkey, AList.lookup_insert_ne hkey, hdict]
  exact hfold ∅ ∅ rfl

omit [DecidableEq P] in
theorem find?_eq_lookup (hnodup : (target.map DataPoint.externalId).Nodup)
    (externalId : ExternalId) :
    target.find? (fun datapoint => datapoint.externalId = externalId) =
      (toDict DataPoint.externalId target).lookup externalId := by
  cases hlookup : (toDict DataPoint.externalId target).lookup externalId with
  | none =>
      rw [List.find?_eq_none]
      simpa using lookup_toDict_eq_none.mp hlookup
  | some datapoint =>
      obtain ⟨hmem, hid⟩ := (lookup_toDict hnodup).mp hlookup
      cases hfind : target.find? fun datapoint => datapoint.externalId = externalId with
      | none =>
          rw [List.find?_eq_none] at hfind
          exact absurd (decide_eq_true hid) (hfind datapoint hmem)
      | some found =>
          have hfound := List.mem_of_find?_eq_some hfind
          have hfoundId : found.externalId = externalId := by simpa using List.find?_some hfind
          rw [List.inj_on_of_nodup_map hnodup hfound hmem (hfoundId.trans hid.symm)]

/-- All operations for one external id, the deletion included. -/
def allOperationsAt [EmptyCollection P] (externalId : ExternalId)
    (base target : Option (DataPoint P)) : List (DataPointOperation P) :=
  match base, target with
  | some _, none => [deletion externalId]
  | base, target => operationsAt base target

variable [EmptyCollection P]

theorem attempt_allOperationsAt (externalId : ExternalId) :
    attempt applyAt ((payloads base).lookup externalId)
        ((allOperationsAt externalId ((toDict DataPoint.externalId base).lookup externalId)
          ((toDict DataPoint.externalId target).lookup externalId)).map
            DataPointOperation.onPayloads) =
      some ((payloads target).lookup externalId) := by
  rw [lookup_payloads, lookup_payloads]
  cases hold : (toDict DataPoint.externalId base).lookup externalId with
  | none => cases (toDict DataPoint.externalId target).lookup externalId <;> rfl
  | some old =>
      cases (toDict DataPoint.externalId target).lookup externalId with
      | none => rfl
      | some new =>
          by_cases heq : old = new
          · simp [allOperationsAt, operationsAt, heq]
          · simp [allOperationsAt, operationsAt, heq, attempt_cons, applyAt,
              DataPointOperation.onPayloads]

/-- Lists with unique external ids and nothing that must not be compared have a
diff. -/
theorem diffDatapointList_eq_ok {dataseriesStructure : DataSeriesStructure C}
    (hbase : (base.map DataPoint.externalId).Nodup)
    (htarget : (target.map DataPoint.externalId).Nodup)
    (hcompared : HasFiles dataseriesStructure →
      ∀ datapoint ∈ target, datapoint.externalId ∉ base.map DataPoint.externalId) :
    ∃ operations, diffDatapointList dataseriesStructure base target = .ok operations ∧
      ∀ externalId,
        operations.filter (fun operation => operation.datapoint.externalId = externalId) =
          allOperationsAt externalId ((toDict DataPoint.externalId base).lookup externalId)
            ((toDict DataPoint.externalId target).lookup externalId) := by
  have hcompared' : HasFiles dataseriesStructure →
      ∀ datapoint ∈ target, datapoint.externalId ∉ toDict DataPoint.externalId base := by
    intro hfiles datapoint hmem
    rw [mem_toDict]
    exact hcompared hfiles datapoint hmem
  obtain ⟨updates, remaining, hok, hupdates, hremaining⟩ :=
    diffTargets_eq_ok htarget hcompared'
  refine ⟨updates ++ remaining.keys.reverse.map deletion, ?_, ?_⟩
  · simp only [diffDatapointList, hbase.dedup, htarget.dedup, List.length_map, ne_eq,
      not_true_eq_false, if_false, hok, bind, Except.bind, pure, Except.pure]
  · intro externalId
    have hdeletions : (remaining.keys.reverse.map deletion).filter
        (fun operation : DataPointOperation P => operation.datapoint.externalId = externalId) =
          if externalId ∈ remaining then [deletion externalId] else [] := by
      have hkeys : remaining.keys.reverse.filter (fun key => key = externalId) =
          if externalId ∈ remaining then [externalId] else [] := by
        rw [List.filter_eq]
        have hnodup : remaining.keys.reverse.Nodup :=
          List.nodup_reverse.mpr remaining.keys_nodup
        split
        · next hmem =>
            rw [List.count_eq_one_of_mem hnodup (List.mem_reverse.mpr hmem), List.replicate_one]
        · next hmem =>
            rw [List.count_eq_zero_of_not_mem fun h => hmem (List.mem_reverse.mp h),
              List.replicate_zero]
      rw [List.filter_map]
      change (remaining.keys.reverse.filter fun key => key = externalId).map deletion = _
      rw [hkeys]
      split <;> rfl
    have hmem : externalId ∈ remaining ↔
        ((toDict DataPoint.externalId base).lookup externalId).isSome = true ∧
          ((toDict DataPoint.externalId target).lookup externalId).isSome = false := by
      have htargetMem : externalId ∈ toDict DataPoint.externalId target ↔ _ := mem_toDict
      rw [← AList.lookup_isSome, hremaining externalId, ← Bool.not_eq_true, AList.lookup_isSome,
        AList.lookup_isSome, htargetMem]
      by_cases htargetId : externalId ∈ target.map DataPoint.externalId
      · simp [htargetId]
      · simp only [htargetId, if_false, not_false_eq_true, and_true, AList.lookup_isSome]
    rw [List.filter_append, hdeletions, hupdates, find?_eq_lookup htarget]
    simp only [hmem]
    cases (toDict DataPoint.externalId base).lookup externalId with
    | none => simp [allOperationsAt]
    | some old =>
        cases (toDict DataPoint.externalId target).lookup externalId with
        | none => rfl
        | some new => simp [allOperationsAt]

theorem length_allOperationsAt_le (externalId : ExternalId) (base target : Option (DataPoint P)) :
    (allOperationsAt externalId base target).length ≤ 1 := by
  cases base with
  | none => cases target <;> simp [allOperationsAt, operationsAt]
  | some old =>
      cases target with
      | none => simp [allOperationsAt]
      | some new => by_cases heq : old = new <;> simp [allOperationsAt, operationsAt, heq]

/-- Operations that are right for each external id are a patch. -/
theorem patchesDatapoints_of_filter (hbase : (base.map DataPoint.externalId).Nodup)
    (htarget : (target.map DataPoint.externalId).Nodup)
    {operations : List (DataPointOperation P)}
    (hfilter : ∀ externalId,
      operations.filter (fun operation => operation.datapoint.externalId = externalId) =
        allOperationsAt externalId ((toDict DataPoint.externalId base).lookup externalId)
          ((toDict DataPoint.externalId target).lookup externalId)) :
    PatchesDatapoints base target operations := by
  refine ⟨?_, ?_, ?_⟩
  · apply attempt_applyOperation
    intro externalId
    rw [List.filter_map]
    change attempt applyAt _ ((operations.filter fun operation =>
      operation.datapoint.externalId = externalId).map _) = _
    rw [hfilter]
    exact attempt_allOperationsAt externalId
  · intro datapoint hmem hmem' operation hoperation hid
    have hnone := hfilter datapoint.externalId
    rw [(lookup_toDict hbase).mpr ⟨hmem, rfl⟩, (lookup_toDict htarget).mpr ⟨hmem', rfl⟩] at hnone
    have hempty : operations.filter (fun operation =>
        operation.datapoint.externalId = datapoint.externalId) = [] := by
      simpa [allOperationsAt, operationsAt] using hnone
    rw [List.filter_eq_nil_iff] at hempty
    exact hempty operation hoperation (decide_eq_true hid)
  · rw [List.nodup_iff_count_le_one]
    intro externalId
    rw [count_map_eq_length_filter, hfilter]
    exact length_allOperationsAt_le externalId _ _

end Payloads

/-- Each guard fires exactly when it should, and what passes them is a patch. -/
structure GuardedPatch [EmptyCollection P] (dataseriesStructure : DataSeriesStructure C)
    (base target : List (DataPoint P)) : Prop where
  valueError : (∃ message,
      diffDatapointList dataseriesStructure base target = .error (.valueError message)) ↔
    ¬ (base.map DataPoint.externalId).Nodup ∨ ¬ (target.map DataPoint.externalId).Nodup
  notImplementedError : (∃ message,
      diffDatapointList dataseriesStructure base target =
        .error (.notImplementedError message)) ↔
    (base.map DataPoint.externalId).Nodup ∧ (target.map DataPoint.externalId).Nodup ∧
      HasFiles dataseriesStructure
  patches : (base.map DataPoint.externalId).Nodup → (target.map DataPoint.externalId).Nodup →
    ¬ HasFiles dataseriesStructure →
    ∃ operations, diffDatapointList dataseriesStructure base target = .ok operations ∧
      PatchesDatapoints base target operations

section Guards

variable [EmptyCollection P] {dataseriesStructure : DataSeriesStructure C}
  {base target : List (DataPoint P)}

omit [DecidableEq P] [EmptyCollection P] in
theorem length_dedup_eq_iff (datapoints : List (DataPoint P)) :
    (datapoints.map DataPoint.externalId).dedup.length = datapoints.length ↔
      (datapoints.map DataPoint.externalId).Nodup := by
  constructor
  · intro hlength
    rw [← List.dedup_eq_self]
    apply (List.dedup_sublist _).eq_of_length
    rw [hlength, List.length_map]
  · intro hnodup
    rw [hnodup.dedup, List.length_map]

/-- Duplicates are refused before anything is compared. -/
theorem diffDatapointList_eq_valueError (dataseriesStructure : DataSeriesStructure C)
    (base target : List (DataPoint P))
    (hduplicates : ¬ (base.map DataPoint.externalId).Nodup ∨
      ¬ (target.map DataPoint.externalId).Nodup) :
    ∃ message,
      diffDatapointList dataseriesStructure base target = .error (.valueError message) := by
  rw [← length_dedup_eq_iff, ← length_dedup_eq_iff] at hduplicates
  rw [diffDatapointList]
  by_cases hbase : (base.map DataPoint.externalId).dedup.length = base.length
  · have htarget := hduplicates.resolve_left fun h => h hbase
    exact ⟨_, by simp only [hbase, ne_eq, not_true_eq_false, if_false, if_pos htarget]; rfl⟩
  · exact ⟨_, by simp only [ne_eq, hbase, not_false_eq_true, if_true]; rfl⟩

theorem diffDatapointList_eq_notImplementedError
    (hbase : (base.map DataPoint.externalId).Nodup)
    (htarget : (target.map DataPoint.externalId).Nodup) (hfiles : HasFiles dataseriesStructure)
    (hshared : ∃ datapoint ∈ target, datapoint.externalId ∈ base.map DataPoint.externalId) :
    diffDatapointList dataseriesStructure base target =
      .error (.notImplementedError "filefacts and imagefacts are not supported yet") := by
  obtain ⟨datapoint, hmem, hid⟩ := hshared
  have hloop : diffTargets dataseriesStructure target (toDict DataPoint.externalId base) = _ :=
    diffTargets_eq_error hfiles ⟨datapoint, hmem, mem_toDict.mpr hid⟩
  simp only [diffDatapointList, hbase.dedup, htarget.dedup, List.length_map, ne_eq,
    not_true_eq_false, if_false, hloop, bind, Except.bind]

/-- Image and file facts are found out by the first comparison, and there is none
when no data point is in both lists. -/
theorem diffDatapointList_guarded_iff (dataseriesStructure : DataSeriesStructure C)
    (base target : List (DataPoint P)) :
    GuardedPatch dataseriesStructure base target ↔
      ¬ (base.map DataPoint.externalId).Nodup ∨ ¬ (target.map DataPoint.externalId).Nodup ∨
        ¬ HasFiles dataseriesStructure ∨
        ∃ datapoint ∈ target, datapoint.externalId ∈ base.map DataPoint.externalId := by
  by_cases hbase : (base.map DataPoint.externalId).Nodup
  · by_cases htarget : (target.map DataPoint.externalId).Nodup
    · simp only [hbase, htarget, not_true_eq_false, false_or]
      constructor
      · intro hguarded
        by_contra hdisjoint
        rw [not_or, not_not, not_exists] at hdisjoint
        obtain ⟨hfiles, hnone⟩ := hdisjoint
        obtain ⟨operations, hok, -⟩ := diffDatapointList_eq_ok hbase htarget
          fun _ datapoint hmem hid => hnone datapoint ⟨hmem, hid⟩
        obtain ⟨message, herror⟩ :=
          hguarded.notImplementedError.mpr ⟨hbase, htarget, hfiles⟩
        rw [hok] at herror
        cases herror
      · intro hcondition
        by_cases hfiles : HasFiles dataseriesStructure
        · have herror := diffDatapointList_eq_notImplementedError hbase htarget hfiles
            (hcondition.resolve_left fun h => h hfiles)
          refine ⟨?_, ?_, fun _ _ h => absurd hfiles h⟩
          · simp [herror, hbase, htarget]
          · simp [herror, hbase, htarget, hfiles]
        · obtain ⟨operations, hok, hfilter⟩ := diffDatapointList_eq_ok hbase htarget
            fun h => absurd h hfiles
          refine ⟨?_, ?_, fun _ _ _ => ⟨operations, hok, ?_⟩⟩
          · simp [hok, hbase, htarget]
          · simp [hok, hfiles]
          · exact patchesDatapoints_of_filter hbase htarget hfilter
    · obtain ⟨message, herror⟩ :=
        diffDatapointList_eq_valueError dataseriesStructure base target (Or.inr htarget)
      simp only [htarget, not_false_eq_true, true_or, or_true, iff_true]
      exact ⟨by simp [herror, htarget], by simp [herror, htarget], fun _ h => absurd h htarget⟩
  · obtain ⟨message, herror⟩ :=
      diffDatapointList_eq_valueError dataseriesStructure base target (Or.inl hbase)
    simp only [hbase, not_false_eq_true, true_or, iff_true]
    exact ⟨by simp [herror, hbase], by simp [herror, hbase], fun h => absurd h hbase⟩

end Guards

namespace ListDiffWitness

/-- A data series with one image fact. -/
def withImage : DataSeriesStructure String
  | .fact .image => [⟨"picture", ⟨"Picture", true⟩⟩]
  | _ => []

/-- Two lists without a common data point get past the guard. -/
theorem disjoint_not_guarded :
    ¬ GuardedPatch withImage ([⟨"a", [], true⟩] : List (DataPoint (List String)))
      [⟨"b", [], true⟩] := by
  intro hguarded
  obtain ⟨message, herror⟩ := hguarded.notImplementedError.mpr (by decide)
  cases herror

end ListDiffWitness

end ComposeClient

end NFCompose
