/-
Data series, their structure elements and the rows that the dynamic SQL storage
keeps for them: the materialised table, the flat history table and the file
registry.  A timestamp is its number of microseconds.
-/
import Mathlib.Data.List.AList
import Mathlib.Data.List.Nodup

namespace NFCompose

universe u

abbrev Uuid := String
abbrev ExternalId := String
abbrev DataPointId := String

def validateExternalIdSqlSafe (externalId : ExternalId) : Bool :=
  externalId.toList.all (fun c => c.isAlphanum || c = '_') &&
    1 ≤ externalId.length && externalId.length ≤ 50

def validateExternalIdUrlSafe (externalId : ExternalId) : Bool :=
  externalId.toList.all (fun c => c.isAlphanum || c = '_' || c = '-') &&
    1 ≤ externalId.length && externalId.length ≤ 256

/-- Only the first two backends are still supported. -/
inductive StorageBackendType where
  | dynamicSqlMaterializedFlatHistory
  | dynamicSqlNoHistory
  | dynamicSqlMaterialized
  | dynamicSqlV1
deriving DecidableEq, Repr

/-- The backends that new data series can have. -/
def StorageBackendType.Supported (backend : StorageBackendType) : Prop :=
  backend = .dynamicSqlNoHistory ∨ backend = .dynamicSqlMaterializedFlatHistory

/-- A pair `(point_in_time, sub_clock)`, compared as an SQL row. -/
@[ext] structure Clock where
  pointInTime : Int
  subClock : Int
deriving DecidableEq, Repr

namespace Clock

instance : LT Clock where
  lt a b := a.pointInTime < b.pointInTime ∨
    a.pointInTime = b.pointInTime ∧ a.subClock < b.subClock

instance : LE Clock where
  le a b := a.pointInTime < b.pointInTime ∨
    a.pointInTime = b.pointInTime ∧ a.subClock ≤ b.subClock

theorem lt_def (a b : Clock) :
    a < b ↔ a.pointInTime < b.pointInTime ∨
      a.pointInTime = b.pointInTime ∧ a.subClock < b.subClock := Iff.rfl

theorem le_def (a b : Clock) :
    a ≤ b ↔ a.pointInTime < b.pointInTime ∨
      a.pointInTime = b.pointInTime ∧ a.subClock ≤ b.subClock := Iff.rfl

instance (a b : Clock) : Decidable (a < b) :=
  inferInstanceAs (Decidable (_ ∨ _))

instance (a b : Clock) : Decidable (a ≤ b) :=
  inferInstanceAs (Decidable (_ ∨ _))

instance : LinearOrder Clock where
  le_refl a := by simp [le_def]
  le_trans a b c := by simp only [le_def]; omega
  lt_iff_le_not_ge a b := by simp only [lt_def, le_def]; omega
  le_antisymm a b := by
    simp only [le_def, Clock.ext_iff]
    omega
  le_total a b := by simp only [le_def]; omega
  toDecidableLE := inferInstance
  toDecidableLT := inferInstance
  toDecidableEq := inferInstance

theorem pointInTime_le_of_le {a b : Clock} (hle : a ≤ b) :
    a.pointInTime ≤ b.pointInTime := by
  rw [le_def] at hle
  omega

end Clock

/-- SQL's `(a, b) < (c, d)` where `b` and `d` may be NULL: it is true when the
first components decide it, or when both second ones are there and do. -/
def RowLess (pointInTime : Int) (subClock : Option Int) (pointInTime' : Int)
    (subClock' : Option Int) : Prop :=
  pointInTime < pointInTime' ∨
    pointInTime = pointInTime' ∧
      ∃ sub ∈ subClock, ∃ sub' ∈ subClock', sub < sub'

instance decidableExistsMem {α : Type u} (p : α → Prop) [DecidablePred p]
    (value : Option α) : Decidable (∃ x ∈ value, p x) :=
  match value with
  | none => isFalse (by simp)
  | some x => decidable_of_iff (p x) (by simp)

instance decidableForallMem {α : Type u} (p : α → Prop) [DecidablePred p]
    (value : Option α) : Decidable (∀ x ∈ value, p x) :=
  match value with
  | none => isTrue (by simp)
  | some x => decidable_of_iff (p x) (by simp)

instance (pointInTime : Int) (subClock : Option Int) (pointInTime' : Int)
    (subClock' : Option Int) :
    Decidable (RowLess pointInTime subClock pointInTime' subClock') :=
  inferInstanceAs (Decidable (_ ∨ _))

theorem rowLess_some (pointInTime subClock pointInTime' subClock' : Int) :
    RowLess pointInTime (some subClock) pointInTime' (some subClock') ↔
      Clock.mk pointInTime subClock < Clock.mk pointInTime' subClock' := by
  simp [RowLess, Clock.lt_def]

/-- The kinds of structure elements that own a data column, under the keys of
`DataPointSerializationKeys`. -/
inductive FactDimKind where
  | imageFacts
  | fileFacts
  | floatFacts
  | stringFacts
  | jsonFacts
  | dimensions
  | textFacts
  | booleanFacts
  | timestampFacts
deriving DecidableEq, Repr

/-- `FACT_DIM_ORDER_IN_SQL`. -/
def factDimOrderInSql : List FactDimKind :=
  [.imageFacts, .fileFacts, .floatFacts, .stringFacts, .jsonFacts, .dimensions,
    .textFacts, .booleanFacts, .timestampFacts]

/-- A structure element as the queries see it.  The name of its data column
begins with the uuid, so the column is known by the uuid. -/
structure StructureKey where
  externalId : ExternalId
  uuid : Uuid
deriving DecidableEq, Repr

abbrev DataPointSerializationKeys := FactDimKind → List StructureKey

/-- All elements in the order of their data columns. -/
def DataPointSerializationKeys.all (keys : DataPointSerializationKeys) :
    List StructureKey :=
  factDimOrderInSql.flatMap keys

/-- The facts whose values are uploaded files. -/
def DataPointSerializationKeys.fileLike (keys : DataPointSerializationKeys) :
    List StructureKey :=
  keys .imageFacts ++ keys .fileFacts

/-- A data series.  Uuids are primary keys of the meta model, so no two of its
elements share one. -/
structure DataSeries where
  tenantId : Uuid
  id : Uuid
  backend : StorageBackendType
  keys : DataPointSerializationKeys
  uuids_nodup : (keys.all.map StructureKey.uuid).Nodup

/-- The data columns of the materialised and of the history table. -/
def DataSeries.columns (ds : DataSeries) : List Uuid :=
  ds.keys.all.map StructureKey.uuid

/-- The data columns that hold file names. -/
def DataSeries.fileColumns (ds : DataSeries) : List Uuid :=
  ds.keys.fileLike.map StructureKey.uuid

/-- Values that may be uploaded files: a file is stored under its name. -/
class UploadedFile (V : Type u) where
  name : V → String

/-- Files known by their name alone. -/
instance : UploadedFile String where
  name file := file

/-- The content of a data column.  A JSON column keeps the text that
`json.dumps` gives, also for `None`. -/
inductive Cell (V : Type u) where
  | null
  | value (v : V)
  | json (v : Option V)
  | fileName (name : String)
deriving DecidableEq, Repr

variable {V : Type u}

/-- One element of `validated_datas`.  A key of the payload may be absent, or
present with `None`. -/
structure ValidatedData (V : Type u) where
  id : DataPointId
  externalId : ExternalId
  payload : List (ExternalId × Option V)

/-- A row of the materialised table, without the id it is stored under. -/
structure MatRow (V : Type u) where
  externalId : ExternalId
  pointInTime : Int
  insertedAt : Int
  deletedAt : Option Int
  subClock : Option Int
  data : Uuid → Cell V

/-- A row of the flat history table. -/
structure HistRow (V : Type u) where
  id : DataPointId
  externalId : ExternalId
  pointInTime : Int
  deleted : Bool
  userId : Option String
  recordSource : String
  subClock : Option Int
  data : Uuid → Cell V

/-- A row of the file registry. -/
structure FileLookup where
  tenantId : Uuid
  dataSeriesId : Uuid
  factId : Uuid
  dataPointId : DataPointId
  pointInTime : Int
  subClock : Int
  fileName : String
  deletedAt : Option Int
deriving DecidableEq, Repr

def FileLookup.clock (entry : FileLookup) : Clock :=
  ⟨entry.pointInTime, entry.subClock⟩

/-- The materialised table has one row for each data point id. -/
abbrev MatTable (V : Type u) := AList fun _ : DataPointId => MatRow V

/-- What the storage of one data series consists of, with the registry and the
file storage that it shares with others. -/
structure StorageState (V : Type u) where
  materialized : MatTable V
  history : List (HistRow V)
  fileLookup : List FileLookup
  storage : List String

/-- No data point was ever written. -/
def StorageState.empty (fileLookup : List FileLookup) (storage : List String) :
    StorageState V :=
  ⟨∅, [], fileLookup, storage⟩

/-- The payload columns of a row, in column order. -/
def DataSeries.payload (ds : DataSeries) (data : Uuid → Cell V) :
    List (Uuid × Cell V) :=
  ds.columns.map fun column => (column, data column)

theorem DataSeries.payload_eq_iff (ds : DataSeries) (data other : Uuid → Cell V) :
    ds.payload data = ds.payload other ↔
      ∀ column ∈ ds.columns, data column = other column := by
  simp [DataSeries.payload]

end NFCompose
