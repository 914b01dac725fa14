/-
Batches of data points as multipart forms.  The client writes one part for each
value, with the position of the data point and the name of the value in its key;
the server puts the parts together again.
-/
import NFCompose.ListDiff
import NFCompose.NestedForms
import NFCompose.UserDefinedFilter

namespace NFCompose

open NestedForms PartialRuns

variable {N F C : Type}

/-- A value of a payload; `F` has the files. -/
inductive PayloadValue (N F : Type) where
  | json (value : Json N)
  | file (content : F)

/-- A value of a form. -/
inductive FormValue (F : Type) where
  | text (value : String)
  | file (content : F)
deriving DecidableEq, Repr

abbrev Payload (N F : Type) := AList fun _ : String => PayloadValue N F

namespace ComposeClient

/-- What the client takes from Python and from `requests`: texts of values, the
file of a path, and what becomes of a bare value that is neither. -/
structure Texts (N F : Type) where
  number : N → String
  collection : Json N → String
  fileObject : F → String
  dumps : Json N → String
  openFile : String → Option F
  bareValue : Json N → FormValue F

/-- `str`. -/
def Texts.str (texts : Texts N F) : PayloadValue N F → String
  | .json .null => "None"
  | .json (.boolean value) => if value then "True" else "False"
  | .json (.number value) => texts.number value
  | .json (.string value) => value
  | .json value => texts.collection value
  | .file content => texts.fileObject content

section Push

variable (texts : Texts N F) (dataseriesStructure : DataSeriesStructure C)

def fileLikeFacts : List ExternalId :=
  (dataseriesStructure (.fact .file) ++ dataseriesStructure (.fact .image)).map
    Identifiable.externalId

def jsonFacts : List ExternalId :=
  (dataseriesStructure (.fact .json)).map Identifiable.externalId

/-- The entry for a value of a payload.  Nothing when a file cannot be opened or
written as JSON. -/
def payloadEntry (key : String) (value : PayloadValue N F) : Option (Option (FormValue F)) :=
  if key ∈ fileLikeFacts dataseriesStructure then
    match value with
    | .json (.string path) => (texts.openFile path).map fun content => some (.file content)
    | .json .null => some none
    | .json value => some (some (texts.bareValue value))
    | .file content => some (some (.file content))
  else if key ∈ jsonFacts dataseriesStructure then
    match value with
    | .json value => some (some (.text (texts.dumps value)))
    | .file _ => none
  else some (some (.text (texts.str value)))

def batchKey (i : Nat) (name : String) : String := "batch-" ++ i.repr ++ "." ++ name

/-- The entries for one data point. -/
def dataPointEntries (elem : DataPoint (Payload N F)) (i : Nat) :
    Option (List (String × Option (FormValue F))) := do
  let payload ← elem.payload.entries.mapM fun entry =>
    (payloadEntry texts dataseriesStructure entry.1 entry.2).map
      (batchKey i ("payload." ++ entry.1), ·)
  return (batchKey i "external_id", some (.text elem.externalId)) ::
    (batchKey i "identify_dimensions_by_external_id",
      some (.text (if elem.identifyDimensionsByExternalId then "True" else "False"))) :: payload

/-- `as_batch_files` of a chunk. -/
def asBatchFiles (chunk : List (DataPoint (Payload N F))) :
    Option (List (String × Option (FormValue F))) :=
  (chunk.zipIdx.mapM fun elem =>
    dataPointEntries texts dataseriesStructure elem.1 elem.2).map List.flatten

/-- `requests` leaves out what is `None`. -/
def postMultipart (files : List (String × Option (FormValue F))) : List (String × FormValue F) :=
  files.filterMap fun entry => entry.2.map (entry.1, ·)

end Push

end ComposeClient

section Parser

/-- The data of a request, and what the parser leaves in its context. -/
structure ParsedBatch (F : Type) where
  data : FormTree (FormValue F)
  jsonAsString : Bool
  hadFiles : Bool

inductive ParseError where
  | parseError
  | validationError (keys : List String)

def asText (part : String × FormValue F) : Option (String × String) :=
  match part.2 with
  | .text value => some (part.1, value)
  | .file _ => none

def asFile (part : String × FormValue F) : Option (String × F) :=
  match part.2 with
  | .text _ => none
  | .file content => some (part.1, content)

variable (superParse : List (String × FormValue F) →
    Option (List (String × String) × List (String × F)))
  (variableDecode : List (String × FormValue F) → FormTree (FormValue F))

/-- `DataPointMultipartFormencodeParser.parse`; `superParse` is the parser of the
framework, and `variableDecode` that of formencode. -/
def parseMultipart (stream : List (String × FormValue F)) : Except ParseError (ParsedBatch F) :=
  match superParse stream with
  | none => .error .parseError
  | some (data, files) =>
      let intersect := (files.map Prod.fst).filter (· ∈ data.map Prod.fst)
      if intersect ≠ [] then .error (.validationError intersect)
      else
        let merged := data.map (fun entry => (entry.1, .text entry.2)) ++
          files.map fun entry => (entry.1, .file entry.2)
        .ok ⟨variableDecode merged, true, files ≠ []⟩

end Parser

section Reading

/-- The data points of a request. -/
def batchItems (data : FormTree (FormValue F)) : List (FormTree (FormValue F)) :=
  match data.member "batch" with
  | some (.list items) => items
  | _ => []

def FormValue.read : FormValue F → PayloadValue N F
  | .text value => .json (.string value)
  | .file content => .file content

def readLeaf : FormTree (FormValue F) → Option (PayloadValue N F)
  | .leaf value => some value.read
  | _ => none

/-- The payload of a data point of a request. -/
def payloadOf (item : FormTree (FormValue F)) (key : String) : Option (PayloadValue N F) :=
  ((item.member "payload").bind fun payload => payload.member key).bind readLeaf

/-- A data point arrives with its external ids, and with values that are related
to its own. -/
structure Arrives (related : String → PayloadValue N F → PayloadValue N F → Prop)
    (point : ComposeClient.DataPoint (Payload N F)) (item : FormTree (FormValue F)) : Prop where
  externalId : item.member "external_id" = some (.leaf (.text point.externalId))
  identify : item.member "identify_dimensions_by_external_id" =
    some (.leaf (.text (if point.identifyDimensionsByExternalId then "True" else "False")))
  payload : ∀ key, Option.Rel (related key) (point.payload.lookup key) (payloadOf item key)

/-- The values arrive as they are. -/
def SameBatch (chunk : List (ComposeClient.DataPoint (Payload N F)))
    (data : FormTree (FormValue F)) : Prop :=
  List.Forall₂ (Arrives fun _ value found => value = found) chunk (batchItems data)

/-- A chunk is written, read, and comes back as it was. -/
def RoundTrips (texts : ComposeClient.Texts N F)
    (dataseriesStructure : ComposeClient.DataSeriesStructure C)
    (superParse : List (String × FormValue F) →
      Option (List (String × String) × List (String × F)))
    (variableDecode : List (String × FormValue F) → FormTree (FormValue F))
    (chunk : List (ComposeClient.DataPoint (Payload N F))) : Prop :=
  ∃ files parsed, ComposeClient.asBatchFiles texts dataseriesStructure chunk = some files ∧
    parseMultipart superParse variableDecode (ComposeClient.postMultipart files) = .ok parsed ∧
    SameBatch chunk parsed.data

/-- How a value is sent: a file as a file, and anything else as its text.  Of a file fact the
null is not sent, and a text is the path of the file. -/
inductive SentAs (texts : ComposeClient.Texts N F)
    (dataseriesStructure : ComposeClient.DataSeriesStructure C) (key : String) :
    PayloadValue N F → PayloadValue N F → Prop where
  | file {content : F} (isFile : key ∈ ComposeClient.fileLikeFacts dataseriesStructure) :
      SentAs texts dataseriesStructure key (.file content) (.file content)
  | path {path : String} {content : F}
      (isFile : key ∈ ComposeClient.fileLikeFacts dataseriesStructure)
      (opened : texts.openFile path = some content) :
      SentAs texts dataseriesStructure key (.json (.string path)) (.file content)
  | bare {value : Json N} (isFile : key ∈ ComposeClient.fileLikeFacts dataseriesStructure)
      (noPath : ∀ path, value ≠ .string path) (noNull : value ≠ .null) :
      SentAs texts dataseriesStructure key (.json value) (texts.bareValue value).read
  | json {value : Json N} (noFile : key ∉ ComposeClient.fileLikeFacts dataseriesStructure)
      (isJson : key ∈ ComposeClient.jsonFacts dataseriesStructure) :
      SentAs texts dataseriesStructure key (.json value) (.json (.string (texts.dumps value)))
  | text {value : PayloadValue N F}
      (noFile : key ∉ ComposeClient.fileLikeFacts dataseriesStructure)
      (noJson : key ∉ ComposeClient.jsonFacts dataseriesStructure) :
      SentAs texts dataseriesStructure key value (.json (.string (texts.str value)))

end Reading

section Keys

/-- The first component of a key. -/
def batchComponent (i : Nat) : List Char := "batch".toList ++ '-' :: Nat.toDigits 10 i

theorem componentSteps_batch (i : Nat) :
    componentSteps (batchComponent i) = some [.name "batch", .position i] :=
  componentSteps_position (by decide) (by decide) i

theorem dot_not_mem_batch (i : Nat) : '.' ∉ batchComponent i := by
  rw [batchComponent, List.mem_append, List.mem_cons, not_or, not_or]
  refine ⟨by decide, by decide, ?_⟩
  intro hmem
  exact absurd (Nat.isDigit_of_mem_toDigits (by decide) (by decide) hmem) (by decide)

theorem toList_batchKey (i : Nat) (name : String) :
    (ComposeClient.batchKey i name).toList = batchComponent i ++ '.' :: name.toList := by
  simp [ComposeClient.batchKey, batchComponent, Nat.toList_repr]

theorem keySteps_field {i : Nat} {name : String} (hdot : '.' ∉ name.toList)
    (hdash : '-' ∉ name.toList) :
    keySteps (ComposeClient.batchKey i name) =
      some [.name "batch", .position i, .name name] := by
  have hkey : (ComposeClient.batchKey i name).toList =
      ['.'].intercalate [batchComponent i, name.toList] := by
    rw [toList_batchKey]
    simp
  rw [keySteps_joined _ (by simp) hkey]
  · simp [componentSteps_batch, componentSteps_name hdash]
  · simp [hdot, dot_not_mem_batch]

theorem keySteps_payload {i : Nat} {key : String} (hsafe : validateExternalIdSqlSafe key = true) :
    keySteps (ComposeClient.batchKey i ("payload." ++ key)) =
      some [.name "batch", .position i, .name "payload", .name key] := by
  have hdot : '.' ∉ key.toList := not_mem_of_safe hsafe (by decide)
  have hdash : '-' ∉ key.toList := not_mem_of_safe hsafe (by decide)
  have hkey : (ComposeClient.batchKey i ("payload." ++ key)).toList =
      ['.'].intercalate [batchComponent i, "payload".toList, key.toList] := by
    rw [toList_batchKey]
    simp
  have hpayload : componentSteps ['p', 'a', 'y', 'l', 'o', 'a', 'd'] = some [.name "payload"] :=
    componentSteps_name (by decide)
  rw [keySteps_joined _ (by simp) hkey]
  · simp [componentSteps_batch, componentSteps_name hdash, hpayload]
  · simp [hdot, dot_not_mem_batch]

end Keys

section Parts

def FormValue.isText : FormValue F → Bool
  | .text _ => true
  | .file _ => false

/-- The texts of a form come before its files. -/
def textsFirst {A : Type} (entries : List (A × FormValue F)) : List (A × FormValue F) :=
  entries.filter (fun entry => entry.2.isText) ++ entries.filter fun entry => !entry.2.isText

theorem textsFirst_perm {A : Type} (entries : List (A × FormValue F)) :
    (textsFirst entries).Perm entries :=
  List.filter_append_perm (fun entry : A × FormValue F => entry.2.isText) entries

theorem textsFirst_map {A B : Type} (rename : A → B) (entries : List (A × FormValue F)) :
    textsFirst (entries.map fun entry => (rename entry.1, entry.2)) =
      (textsFirst entries).map fun entry => (rename entry.1, entry.2) := by
  rw [textsFirst, textsFirst, List.map_append, List.filter_map, List.filter_map]
  rfl

theorem textsFirst_under (step : Step) (entries : Entries (FormValue F)) :
    textsFirst (entries.map (under step)) = (textsFirst entries).map (under step) :=
  textsFirst_map (step :: ·) entries

theorem textsFirst_flat (pairs : List (String × FormValue F)) :
    textsFirst (flat pairs) = flat (textsFirst pairs) :=
  textsFirst_map (fun key => [Step.name key]) pairs

theorem textsFirst_eq_nil {A : Type} {entries : List (A × FormValue F)} :
    textsFirst entries = [] ↔ entries = [] := by
  constructor
  · intro hnil
    exact List.perm_nil.mp (hnil ▸ (textsFirst_perm entries).symm)
  · rintro rfl
    rfl

theorem textsFirst_cons_text {A : Type} (name : A) (value : String)
    (entries : List (A × FormValue F)) :
    textsFirst ((name, .text value) :: entries) = (name, .text value) :: textsFirst entries := by
  simp [textsFirst, FormValue.isText]

theorem below_textsFirst (step : Step) (entries : Entries (FormValue F)) :
    below step (textsFirst entries) = textsFirst (below step entries) := by
  rw [textsFirst, below_append, below_filter,
    below_filter step (fun value : FormValue F => !value.isText), textsFirst]

theorem merged_eq_textsFirst (stream : List (String × FormValue F)) :
    ((stream.filterMap asText).map (fun entry => (entry.1, FormValue.text entry.2)) ++
      (stream.filterMap asFile).map fun entry => (entry.1, FormValue.file entry.2)) =
        textsFirst stream := by
  rw [textsFirst]
  congr 1
  · induction stream with
    | nil => rfl
    | cons part rest ih =>
        obtain ⟨name, value⟩ := part
        cases value with
        | text value =>
            rw [List.filterMap_cons_some (show asText (name, .text value) = some (name, value)
              from rfl), List.map_cons, ih, List.filter_cons_of_pos rfl]
        | file content =>
            rw [List.filterMap_cons_none (show asText (name, .file content) = none from rfl), ih,
              List.filter_cons_of_neg (by simp [FormValue.isText])]
  · induction stream with
    | nil => rfl
    | cons part rest ih =>
        obtain ⟨name, value⟩ := part
        cases value with
        | text value =>
            rw [List.filterMap_cons_none (show asFile (name, .text value) = none from rfl), ih,
              List.filter_cons_of_neg (by simp [FormValue.isText])]
        | file content =>
            rw [List.filterMap_cons_some (show asFile (name, .file content) = some (name, content)
              from rfl), List.map_cons, ih, List.filter_cons_of_pos rfl]

end Parts

section Form

variable (texts : ComposeClient.Texts N F)
  (dataseriesStructure : ComposeClient.DataSeriesStructure C)

/-- The value that an entry has in the form. -/
def formValue (key : String) (value : PayloadValue N F) : FormValue F :=
  ((ComposeClient.payloadEntry texts dataseriesStructure key value).bind id).getD (.text "")

def payloadPairs (payload : Payload N F) : List (String × FormValue F) :=
  payload.entries.map fun entry => (entry.1, formValue texts dataseriesStructure entry.1 entry.2)

def identifyText (elem : ComposeClient.DataPoint (Payload N F)) : String :=
  if elem.identifyDimensionsByExternalId then "True" else "False"

/-- The parts of a data point. -/
def pointParts (elem : ComposeClient.DataPoint (Payload N F)) (i : Nat) :
    List (String × FormValue F) :=
  (ComposeClient.batchKey i "external_id", .text elem.externalId) ::
    (ComposeClient.batchKey i "identify_dimensions_by_external_id", .text (identifyText elem)) ::
      (payloadPairs texts dataseriesStructure elem.payload).map fun pair =>
        (ComposeClient.batchKey i ("payload." ++ pair.1), pair.2)

/-- What the server makes of their keys. -/
def pointEntries (elem : ComposeClient.DataPoint (Payload N F)) : Entries (FormValue F) :=
  ([.name "external_id"], .text elem.externalId) ::
    ([.name "identify_dimensions_by_external_id"], .text (identifyText elem)) ::
      (flat (payloadPairs texts dataseriesStructure elem.payload)).map (under (.name "payload"))

/-- Every value of a payload can be sent, and none is left out. -/
def Sendable (elem : ComposeClient.DataPoint (Payload N F)) : Prop :=
  ∀ entry ∈ elem.payload.entries, ∃ value,
    ComposeClient.payloadEntry texts dataseriesStructure entry.1 entry.2 = some (some value)

variable {texts dataseriesStructure}

theorem dataPointEntries_eq {elem : ComposeClient.DataPoint (Payload N F)} {i : Nat}
    (hsendable : Sendable texts dataseriesStructure elem) :
    ComposeClient.dataPointEntries texts dataseriesStructure elem i =
      some ((pointParts texts dataseriesStructure elem i).map
        fun part => (part.1, some part.2)) := by
  have hpayload : elem.payload.entries.mapM (fun entry =>
      (ComposeClient.payloadEntry texts dataseriesStructure entry.1 entry.2).map
        (ComposeClient.batchKey i ("payload." ++ entry.1), ·)) =
      some (elem.payload.entries.map fun entry =>
        (ComposeClient.batchKey i ("payload." ++ entry.1),
          some (formValue texts dataseriesStructure entry.1 entry.2))) := by
    apply mapM_eq_some
    intro entry hentry
    obtain ⟨value, hvalue⟩ := hsendable entry hentry
    simp [formValue, hvalue]
  rw [ComposeClient.dataPointEntries, hpayload]
  simp [pointParts, payloadPairs, identifyText, Function.comp_def]

theorem postMultipart_some (parts : List (String × FormValue F)) :
    ComposeClient.postMultipart (parts.map fun part => (part.1, some part.2)) = parts := by
  simp [ComposeClient.postMultipart, List.filterMap_map]

/-- What is posted for a chunk. -/
theorem asBatchFiles_eq {chunk : List (ComposeClient.DataPoint (Payload N F))}
    (hsendable : ∀ elem ∈ chunk, Sendable texts dataseriesStructure elem) :
    ComposeClient.asBatchFiles texts dataseriesStructure chunk =
      some ((chunk.zipIdx.flatMap fun elem =>
        pointParts texts dataseriesStructure elem.1 elem.2).map fun part =>
          (part.1, some part.2)) := by
  have hpoints : chunk.zipIdx.mapM (fun elem =>
      ComposeClient.dataPointEntries texts dataseriesStructure elem.1 elem.2) =
      some (chunk.zipIdx.map fun elem =>
        (pointParts texts dataseriesStructure elem.1 elem.2).map fun part =>
          (part.1, some part.2)) := by
    apply mapM_eq_some
    intro elem helem
    exact dataPointEntries_eq (hsendable elem.1 (List.fst_mem_of_mem_zipIdx helem))
  rw [ComposeClient.asBatchFiles, hpoints, Option.map_some, List.map_flatMap, List.flatMap_def]

/-- The keys of a payload are external ids. -/
def SafeKeys (elem : ComposeClient.DataPoint (Payload N F)) : Prop :=
  ∀ key ∈ elem.payload, validateExternalIdSqlSafe key = true

/-- The steps of a part, and its value. -/
def readPart (part : String × FormValue F) : List Step × FormValue F :=
  ((keySteps part.1).getD [], part.2)

theorem keys_payloadPairs (payload : Payload N F) :
    (payloadPairs texts dataseriesStructure payload).map Prod.fst = payload.keys := by
  rw [payloadPairs, List.map_map]
  rfl

theorem payloadPairs_safe {elem : ComposeClient.DataPoint (Payload N F)} (hsafe : SafeKeys elem)
    {pair : String × FormValue F}
    (hpair : pair ∈ payloadPairs texts dataseriesStructure elem.payload) :
    validateExternalIdSqlSafe pair.1 = true := by
  apply hsafe
  rw [AList.mem_keys, ← @keys_payloadPairs N F C texts dataseriesStructure]
  exact List.mem_map_of_mem hpair

theorem keySteps_pointParts {elem : ComposeClient.DataPoint (Payload N F)} (hsafe : SafeKeys elem)
    (i : Nat) :
    (∀ part ∈ pointParts texts dataseriesStructure elem i, (keySteps part.1).isSome) ∧
      (pointParts texts dataseriesStructure elem i).map readPart =
        ((pointEntries texts dataseriesStructure elem).map (under (.position i))).map
          (under (.name "batch")) := by
  have hexternal : keySteps (ComposeClient.batchKey i "external_id") = _ :=
    keySteps_field (by decide) (by decide)
  have hidentify : keySteps (ComposeClient.batchKey i "identify_dimensions_by_external_id") = _ :=
    keySteps_field (by decide) (by decide)
  constructor
  · rw [pointParts, List.forall_mem_cons, List.forall_mem_cons]
    refine ⟨Option.isSome_of_eq_some hexternal, Option.isSome_of_eq_some hidentify, ?_⟩
    intro part hpart
    obtain ⟨pair, hpair, rfl⟩ := List.mem_map.mp hpart
    exact Option.isSome_of_eq_some (keySteps_payload (payloadPairs_safe hsafe hpair))
  · rw [pointParts, pointEntries, List.map_cons, List.map_cons, readPart, readPart, hexternal,
      hidentify]
    simp only [List.map_cons, List.map_map, flat]
    congr 2
    apply List.map_congr_left
    intro pair hpair
    simp [readPart, keySteps_payload (payloadPairs_safe hsafe hpair), under]

/-- What the server reads of a chunk. -/
theorem formEntries_chunk {chunk : List (ComposeClient.DataPoint (Payload N F))}
    (hsafe : ∀ elem ∈ chunk, SafeKeys elem) :
    formEntries (textsFirst (chunk.zipIdx.flatMap fun elem =>
        pointParts texts dataseriesStructure elem.1 elem.2)) =
      some (textsFirst ((positioned (pointEntries texts dataseriesStructure) chunk 0).map
        (under (.name "batch")))) := by
  have hparts : (chunk.zipIdx.flatMap fun elem =>
      pointParts texts dataseriesStructure elem.1 elem.2).map readPart =
        (positioned (pointEntries texts dataseriesStructure) chunk 0).map
          (under (.name "batch")) := by
    rw [positioned, List.map_flatMap, List.map_flatMap]
    apply List.flatMap_congr
    intro elem helem
    exact (keySteps_pointParts (hsafe elem.1 (List.fst_mem_of_mem_zipIdx helem)) elem.2).2
  have hmap := fun parts : List (String × FormValue F) =>
    textsFirst_map (fun key => (keySteps key).getD []) parts
  rw [← hparts]
  refine Eq.trans ?_ (congrArg some (hmap _).symm)
  apply mapM_eq_some
  intro part hpart
  obtain ⟨elem, helem, hmem⟩ := List.mem_flatMap.mp ((textsFirst_perm _).mem_iff.mp hpart)
  have hsome := (keySteps_pointParts (hsafe elem.1 (List.fst_mem_of_mem_zipIdx helem))
    elem.2).1 part hmem
  obtain ⟨steps, hsteps⟩ := Option.isSome_iff_exists.mp hsome
  simp [hsteps]

/-- The tree of a data point. -/
def pointTree (texts : ComposeClient.Texts N F)
    (dataseriesStructure : ComposeClient.DataSeriesStructure C)
    (elem : ComposeClient.DataPoint (Payload N F)) : FormTree (FormValue F) :=
  .dictionary (("external_id", .leaf (.text elem.externalId)) ::
    ("identify_dimensions_by_external_id", .leaf (.text (identifyText elem))) ::
      if payloadPairs texts dataseriesStructure elem.payload = [] then [] else
        [("payload", .dictionary ((textsFirst (payloadPairs texts dataseriesStructure
          elem.payload)).map fun pair => (pair.1, .leaf pair.2)))])

/-- The entries of a data point besides its payload. -/
def fieldPairs (elem : ComposeClient.DataPoint (Payload N F)) : List (String × FormValue F) :=
  [("external_id", .text elem.externalId),
    ("identify_dimensions_by_external_id", .text (identifyText elem))]

theorem textsFirst_pointEntries (elem : ComposeClient.DataPoint (Payload N F)) :
    textsFirst (pointEntries texts dataseriesStructure elem) =
      flat (fieldPairs elem) ++
        (flat (textsFirst (payloadPairs texts dataseriesStructure elem.payload))).map
          (under (.name "payload")) := by
  rw [pointEntries, textsFirst_cons_text, textsFirst_cons_text, textsFirst_under, textsFirst_flat]
  rfl

theorem nodup_textsFirst (payload : Payload N F) :
    ((textsFirst (payloadPairs texts dataseriesStructure payload)).map Prod.fst).Nodup := by
  rw [((textsFirst_perm _).map Prod.fst).nodup_iff, keys_payloadPairs]
  exact payload.keys_nodup

theorem build_point (elem : ComposeClient.DataPoint (Payload N F)) (fuel : Nat) :
    build (fuel + 3) (textsFirst (pointEntries texts dataseriesStructure elem)) =
      some (pointTree texts dataseriesStructure elem) := by
  rw [textsFirst_pointEntries, pointTree]
  by_cases hpairs : payloadPairs texts dataseriesStructure elem.payload = []
  · have hfields : ((fieldPairs elem).map Prod.fst).Nodup := by simp [fieldPairs]
    rw [if_pos hpairs, hpairs]
    exact build_flat hfields (fuel + 1)
  · rw [if_neg hpairs]
    have hpayload : flat (textsFirst (payloadPairs texts dataseriesStructure elem.payload)) ≠ [] :=
      fun hnil => hpairs (textsFirst_eq_nil.mp (List.map_eq_nil_iff.mp hnil))
    generalize hsorted : textsFirst (payloadPairs texts dataseriesStructure elem.payload) = sorted
      at hpayload ⊢
    have hnodup : (sorted.map Prod.fst).Nodup := hsorted ▸ nodup_textsFirst elem.payload
    apply build_dictionary
    · intro entry hmem
      rcases List.mem_append.mp hmem with hfield | hbelow
      · obtain ⟨pair, -, rfl⟩ := List.mem_map.mp hfield
        rfl
      · obtain ⟨lower, -, rfl⟩ := List.mem_map.mp hbelow
        rfl
    · have hconstant : ((flat sorted).map (under (.name "payload"))).filterMap headName =
          (flat sorted).map fun _ => "payload" := by
        rw [List.filterMap_map]
        exact congrFun List.filterMap_eq_map _
      have hdistinct : distinct ((flat sorted).map fun _ => "payload") = ["payload"] := by
        apply distinct_constant
        · intro other hother
          obtain ⟨_, -, rfl⟩ := List.mem_map.mp hother
          rfl
        · exact fun hnil => hpayload (List.map_eq_nil_iff.mp hnil)
      rw [rootNames, List.filterMap_append, hconstant]
      change distinct ("external_id" :: "identify_dimensions_by_external_id" ::
        (flat sorted).map fun _ => "payload") = _
      rw [distinct, distinct, hdistinct]
      rfl
    · intro member hmem
      simp only [List.mem_cons, List.not_mem_nil, or_false] at hmem
      rcases hmem with rfl | rfl | rfl
      · rw [below_append, below_under_ne (by simp)]
        rfl
      · rw [below_append, below_under_ne (by simp)]
        rfl
      · rw [below_append, below_under_self]
        exact build_flat hnodup fuel

theorem pointEntries_ne_nil (elem : ComposeClient.DataPoint (Payload N F)) :
    pointEntries texts dataseriesStructure elem ≠ [] :=
  List.cons_ne_nil _ _

theorem build_positions {chunk : List (ComposeClient.DataPoint (Payload N F))} (hne : chunk ≠ [])
    (fuel : Nat) :
    build (fuel + 4) (textsFirst (positioned (pointEntries texts dataseriesStructure) chunk 0)) =
      some (.list (chunk.map (pointTree texts dataseriesStructure))) := by
  have hbelow : ∀ index, below (.position index)
      (textsFirst (positioned (pointEntries texts dataseriesStructure) chunk 0)) =
        textsFirst ((chunk[index]?.map (pointEntries texts dataseriesStructure)).getD []) := by
    intro index
    rw [below_textsFirst, ← below_positioned _ chunk 0 index, Nat.zero_add]
  have hfound : ∀ index, below (.position index)
      (textsFirst (positioned (pointEntries texts dataseriesStructure) chunk 0)) ≠ [] ↔
        index < chunk.length := by
    intro index
    rw [hbelow, Ne, textsFirst_eq_nil]
    by_cases hlt : index < chunk.length
    · rw [List.getElem?_eq_getElem hlt]
      exact iff_of_true (pointEntries_ne_nil _) hlt
    · rw [List.getElem?_eq_none (Nat.le_of_not_lt hlt)]
      exact iff_of_false (fun hnil => hnil rfl) hlt
  have hlength : 0 < chunk.length := List.length_pos_iff.mpr hne
  apply build_list
  · intro entry hmem
    exact headPosition_positioned _ chunk 0 entry ((textsFirst_perm _).mem_iff.mp hmem)
  · intro hnil
    have hfirst := (hfound 0).mpr hlength
    rw [hnil] at hfirst
    exact hfirst rfl
  · rw [List.length_map]
    exact rootPositions_eq_range hlength hfound
  · intro index item hitem
    rw [List.getElem?_map, Option.map_eq_some_iff] at hitem
    obtain ⟨elem, helem, rfl⟩ := hitem
    rw [hbelow, helem]
    exact build_point elem fuel

theorem build_chunk {chunk : List (ComposeClient.DataPoint (Payload N F))} (hne : chunk ≠ [])
    (fuel : Nat) :
    build (fuel + 5) (textsFirst ((positioned (pointEntries texts dataseriesStructure) chunk 0).map
        (under (.name "batch")))) =
      some (.dictionary [("batch", .list (chunk.map (pointTree texts dataseriesStructure)))]) := by
  rw [textsFirst_under]
  generalize hentries : textsFirst (positioned (pointEntries texts dataseriesStructure) chunk 0) =
    entries
  have hbuild : build (fuel + 4) entries = _ := hentries ▸ build_positions hne fuel
  have hnonempty : entries ≠ [] := by
    rintro rfl
    cases hbuild
  apply build_dictionary
  · intro entry hmem
    obtain ⟨lower, -, rfl⟩ := List.mem_map.mp hmem
    rfl
  · have hconstant : (entries.map (under (.name "batch"))).filterMap headName =
        entries.map fun _ => "batch" := by
      rw [List.filterMap_map]
      exact congrFun List.filterMap_eq_map _
    rw [rootNames, hconstant]
    apply distinct_constant
    · intro other hother
      obtain ⟨_, -, rfl⟩ := List.mem_map.mp hother
      rfl
    · exact fun hnil => hnonempty (List.map_eq_nil_iff.mp hnil)
  · intro member hmem
    cases List.mem_singleton.mp hmem
    rw [below_under_self]
    exact hbuild

/-- What is posted for a chunk without `None`. -/
def postedParts (texts : ComposeClient.Texts N F)
    (dataseriesStructure : ComposeClient.DataSeriesStructure C)
    (chunk : List (ComposeClient.DataPoint (Payload N F))) : List (String × FormValue F) :=
  chunk.zipIdx.flatMap fun elem => pointParts texts dataseriesStructure elem.1 elem.2

theorem exists_fuel {chunk : List (ComposeClient.DataPoint (Payload N F))} (hne : chunk ≠ []) :
    ∃ fuel, (((textsFirst (postedParts texts dataseriesStructure chunk)).map fun entry =>
      entry.1.length).foldr max 0) + 3 = fuel + 5 := by
  obtain ⟨elem, rest, rfl⟩ := List.exists_cons_of_ne_nil hne
  have hmem : (ComposeClient.batchKey 0 "external_id", FormValue.text elem.externalId) ∈
      textsFirst (postedParts texts dataseriesStructure (elem :: rest)) := by
    rw [(textsFirst_perm _).mem_iff]
    exact List.mem_flatMap.mpr ⟨(elem, 0), List.mem_cons_self, List.mem_cons_self⟩
  have hlong : (ComposeClient.batchKey 0 "external_id").length ≤
      ((textsFirst (postedParts texts dataseriesStructure (elem :: rest))).map fun entry =>
        entry.1.length).foldr max 0 :=
    le_foldr_max (List.mem_map.mpr ⟨_, hmem, rfl⟩)
  have hkey : (ComposeClient.batchKey 0 "external_id").length = 19 := by decide
  rw [hkey] at hlong
  obtain ⟨more, hmore⟩ := Nat.exists_eq_add_of_le hlong
  refine ⟨17 + more, ?_⟩
  omega

theorem decodeForm_chunk {chunk : List (ComposeClient.DataPoint (Payload N F))}
    (hne : chunk ≠ []) (hsafe : ∀ elem ∈ chunk, SafeKeys elem) :
    decodeForm (textsFirst (postedParts texts dataseriesStructure chunk)) =
      some (.dictionary [("batch", .list (chunk.map (pointTree texts dataseriesStructure)))]) := by
  obtain ⟨fuel, hfuel⟩ := @exists_fuel N F C texts dataseriesStructure chunk hne
  rw [decodeForm, hfuel, postedParts, formEntries_chunk hsafe]
  exact build_chunk hne fuel

theorem mem_pointEntries {elem : ComposeClient.DataPoint (Payload N F)} {steps : List Step}
    {value : FormValue F} (hmem : (steps, value) ∈ pointEntries texts dataseriesStructure elem) :
    (∃ key, steps = [.name key] ∧ (key, value) ∈ fieldPairs elem) ∨
      ∃ key, steps = [.name "payload", .name key] ∧
        (key, value) ∈ payloadPairs texts dataseriesStructure elem.payload := by
  rw [← (textsFirst_perm _).mem_iff, textsFirst_pointEntries] at hmem
  rcases List.mem_append.mp hmem with hfield | hpayload
  · obtain ⟨pair, hpair, heq⟩ := List.mem_map.mp hfield
    cases heq
    exact Or.inl ⟨pair.1, rfl, hpair⟩
  · obtain ⟨lower, hlower, heq⟩ := List.mem_map.mp hpayload
    obtain ⟨pair, hpair, rfl⟩ := List.mem_map.mp hlower
    cases heq
    exact Or.inr ⟨pair.1, rfl, (textsFirst_perm _).mem_iff.mp hpair⟩

/-- No place of a data point has two values. -/
theorem pointEntries_unique {elem : ComposeClient.DataPoint (Payload N F)} {steps : List Step}
    {first second : FormValue F}
    (hfirst : (steps, first) ∈ pointEntries texts dataseriesStructure elem)
    (hsecond : (steps, second) ∈ pointEntries texts dataseriesStructure elem) :
    first = second := by
  have hfields : ((fieldPairs elem).map Prod.fst).Nodup := by simp [fieldPairs]
  have hpayload : ((payloadPairs texts dataseriesStructure elem.payload).map Prod.fst).Nodup := by
    rw [keys_payloadPairs]
    exact elem.payload.keys_nodup
  rcases mem_pointEntries hfirst with ⟨key, rfl, hkey⟩ | ⟨key, rfl, hkey⟩
  · rcases mem_pointEntries hsecond with ⟨other, heq, hother⟩ | ⟨other, heq, hother⟩
    · cases heq
      exact congrArg Prod.snd (List.inj_on_of_nodup_map hfields hkey hother rfl)
    · cases heq
  · rcases mem_pointEntries hsecond with ⟨other, heq, hother⟩ | ⟨other, heq, hother⟩
    · cases heq
    · cases heq
      exact congrArg Prod.snd (List.inj_on_of_nodup_map hpayload hkey hother rfl)

/-- A key of what is posted has one value. -/
theorem postedParts_unique {chunk : List (ComposeClient.DataPoint (Payload N F))}
    (hsafe : ∀ elem ∈ chunk, SafeKeys elem) {key : String} {first second : FormValue F}
    (hfirst : (key, first) ∈ postedParts texts dataseriesStructure chunk)
    (hsecond : (key, second) ∈ postedParts texts dataseriesStructure chunk) :
    first = second := by
  have hread : ∀ value, (key, value) ∈ postedParts texts dataseriesStructure chunk →
      ∃ elem i, chunk[i]? = some elem ∧ ∃ steps,
        (keySteps key).getD [] = .name "batch" :: .position i :: steps ∧
          (steps, value) ∈ pointEntries texts dataseriesStructure elem := by
    intro value hmem
    obtain ⟨⟨elem, i⟩, helem, hpart⟩ := List.mem_flatMap.mp hmem
    have hsteps := (@keySteps_pointParts N F C texts dataseriesStructure elem
      (hsafe elem (List.fst_mem_of_mem_zipIdx helem)) i).2
    have hentry : readPart (key, value) ∈ (pointParts texts dataseriesStructure elem i).map
        readPart := List.mem_map_of_mem hpart
    rw [hsteps] at hentry
    obtain ⟨upper, hupper, heq⟩ := List.mem_map.mp hentry
    obtain ⟨lower, hlower, rfl⟩ := List.mem_map.mp hupper
    have hvalue : lower.2 = value := congrArg Prod.snd heq
    rw [← hvalue]
    exact ⟨elem, i, List.mk_mem_zipIdx_iff_getElem?.mp helem, lower.1,
      (congrArg Prod.fst heq).symm, hlower⟩
  obtain ⟨elem, i, helem, steps, hkey, hentry⟩ := hread first hfirst
  obtain ⟨other, j, hother, steps', hkey', hentry'⟩ := hread second hsecond
  rw [hkey] at hkey'
  injection hkey' with _ htail
  injection htail with hposition hsteps
  injection hposition with hij
  subst hij hsteps
  rw [helem] at hother
  cases hother
  exact pointEntries_unique hentry hentry'

theorem sentAs_of_payloadEntry {key : String} {value : PayloadValue N F} {sent : FormValue F}
    (hsent : ComposeClient.payloadEntry texts dataseriesStructure key value = some (some sent)) :
    SentAs texts dataseriesStructure key value sent.read := by
  unfold ComposeClient.payloadEntry at hsent
  by_cases hfile : key ∈ ComposeClient.fileLikeFacts dataseriesStructure
  · rw [if_pos hfile] at hsent
    cases value with
    | file content =>
        cases hsent
        exact .file hfile
    | json value =>
        cases value with
        | null => cases hsent
        | string path =>
            obtain ⟨content, hopen, heq⟩ := Option.map_eq_some_iff.mp hsent
            cases heq
            exact .path hfile hopen
        | _ =>
            cases hsent
            exact .bare hfile (by simp) (by simp)
  · rw [if_neg hfile] at hsent
    by_cases hjson : key ∈ ComposeClient.jsonFacts dataseriesStructure
    · rw [if_pos hjson] at hsent
      cases value with
      | file content => cases hsent
      | json value =>
          cases hsent
          exact .json hfile hjson
    · rw [if_neg hjson] at hsent
      cases hsent
      exact .text hfile hjson

/-- The payload of a data point, as the server reads it. -/
theorem payloadOf_pointTree (elem : ComposeClient.DataPoint (Payload N F)) (key : String)
    (found : PayloadValue N F) :
    payloadOf (pointTree texts dataseriesStructure elem) key = some found ↔
      ∃ value, elem.payload.lookup key = some value ∧
        found = (formValue texts dataseriesStructure key value).read := by
  have hpairs : ∀ sent, (key, sent) ∈ payloadPairs texts dataseriesStructure elem.payload ↔
      ∃ value, elem.payload.lookup key = some value ∧
        sent = formValue texts dataseriesStructure key value := by
    intro sent
    rw [payloadPairs, List.mem_map]
    constructor
    · rintro ⟨⟨name, value⟩, hmem, heq⟩
      cases heq
      exact ⟨value, AList.mem_lookup_iff.mpr hmem, rfl⟩
    · rintro ⟨value, hlookup, rfl⟩
      exact ⟨⟨key, value⟩, AList.mem_lookup_iff.mp hlookup, rfl⟩
  by_cases hnil : payloadPairs texts dataseriesStructure elem.payload = []
  · have hnone : payloadOf (pointTree texts dataseriesStructure elem) key =
        (none : Option (PayloadValue N F)) := by
      rw [pointTree, if_pos hnil]
      rfl
    rw [hnone]
    refine iff_of_false (by simp) ?_
    rintro ⟨value, hlookup, -⟩
    have hmem := (hpairs _).mpr ⟨value, hlookup, rfl⟩
    rw [hnil] at hmem
    cases hmem
  · have hmember : (pointTree texts dataseriesStructure elem).member "payload" =
        some (.dictionary ((textsFirst (payloadPairs texts dataseriesStructure
          elem.payload)).map fun pair => (pair.1, .leaf pair.2))) := by
      rw [pointTree, if_neg hnil]
      rfl
    rw [payloadOf, hmember, Option.bind_some, Option.bind_eq_some_iff]
    constructor
    · rintro ⟨tree, htree, hread⟩
      obtain ⟨sent, hmem, rfl⟩ := (lookup_leaves (nodup_textsFirst elem.payload)).mp htree
      obtain ⟨value, hlookup, rfl⟩ := (hpairs sent).mp ((textsFirst_perm _).mem_iff.mp hmem)
      exact ⟨value, hlookup, (Option.some.inj hread).symm⟩
    · rintro ⟨value, hlookup, rfl⟩
      refine ⟨.leaf (formValue texts dataseriesStructure key value), ?_, rfl⟩
      exact (lookup_leaves (nodup_textsFirst elem.payload)).mpr
        ⟨_, (textsFirst_perm _).mem_iff.mpr ((hpairs _).mpr ⟨value, hlookup, rfl⟩), rfl⟩

theorem pointTree_arrives {elem : ComposeClient.DataPoint (Payload N F)}
    (hsendable : Sendable texts dataseriesStructure elem) :
    Arrives (SentAs texts dataseriesStructure) elem (pointTree texts dataseriesStructure elem) := by
  refine ⟨rfl, rfl, ?_⟩
  intro key
  cases hlookup : elem.payload.lookup key with
  | none =>
      have hnone : payloadOf (pointTree texts dataseriesStructure elem) key =
          (none : Option (PayloadValue N F)) := by
        rw [Option.eq_none_iff_forall_ne_some]
        intro found hfound
        obtain ⟨value, hvalue, -⟩ := (payloadOf_pointTree elem key found).mp hfound
        rw [hlookup] at hvalue
        cases hvalue
      rw [hnone]
      exact .none
  | some value =>
      obtain ⟨sent, hsent⟩ := hsendable ⟨key, value⟩ (AList.mem_lookup_iff.mp hlookup)
      have hvalue : formValue texts dataseriesStructure key value = sent := by
        rw [formValue, hsent]
        rfl
      rw [(payloadOf_pointTree elem key _).mpr ⟨value, hlookup, rfl⟩, hvalue]
      exact .some (sentAs_of_payloadEntry hsent)

/-- Only the null of a file fact is not written. -/
theorem payloadEntry_eq_some_none {key : String} {value : PayloadValue N F}
    (hentry : ComposeClient.payloadEntry texts dataseriesStructure key value = some none) :
    key ∈ ComposeClient.fileLikeFacts dataseriesStructure ∧ value = .json .null := by
  unfold ComposeClient.payloadEntry at hentry
  by_cases hfile : key ∈ ComposeClient.fileLikeFacts dataseriesStructure
  · rw [if_pos hfile] at hentry
    refine ⟨hfile, ?_⟩
    cases value with
    | file content => cases hentry
    | json value =>
        cases value with
        | null => rfl
        | string path =>
            obtain ⟨_, -, heq⟩ := Option.map_eq_some_iff.mp hentry
            cases heq
        | _ => cases hentry
  · rw [if_neg hfile] at hentry
    by_cases hjson : key ∈ ComposeClient.jsonFacts dataseriesStructure
    · rw [if_pos hjson] at hentry
      cases value <;> cases hentry
    · rw [if_neg hjson] at hentry
      cases hentry

/-- Nulls are in JSON facts only. -/
def NoNulls (dataseriesStructure : ComposeClient.DataSeriesStructure C)
    (elem : ComposeClient.DataPoint (Payload N F)) : Prop :=
  ∀ key, elem.payload.lookup key = some (.json .null) →
    key ∉ ComposeClient.fileLikeFacts dataseriesStructure ∧
      key ∈ ComposeClient.jsonFacts dataseriesStructure

/-- A chunk that the client can write is written as a whole. -/
theorem sendable_of_asBatchFiles {chunk : List (ComposeClient.DataPoint (Payload N F))}
    {files : List (String × Option (FormValue F))}
    (hfiles : ComposeClient.asBatchFiles texts dataseriesStructure chunk = some files)
    (hnulls : ∀ elem ∈ chunk, NoNulls dataseriesStructure elem) :
    ∀ elem ∈ chunk, Sendable texts dataseriesStructure elem := by
  intro elem helem entry hentry
  obtain ⟨i, hi⟩ := List.mem_iff_getElem?.mp helem
  have hsome := Option.isSome_of_eq_some hfiles
  rw [ComposeClient.asBatchFiles, Option.isSome_map] at hsome
  have hpoint := isSome_of_mapM hsome (elem, i) (List.mk_mem_zipIdx_iff_getElem?.mpr hi)
  rw [ComposeClient.dataPointEntries] at hpoint
  have hpayload : (elem.payload.entries.mapM fun entry =>
      (ComposeClient.payloadEntry texts dataseriesStructure entry.1 entry.2).map
        (ComposeClient.batchKey i ("payload." ++ entry.1), ·)).isSome = true := by
    obtain ⟨entries, hentries⟩ := Option.isSome_iff_exists.mp hpoint
    obtain ⟨payload, hpayload, -⟩ := Option.bind_eq_some_iff.mp hentries
    exact Option.isSome_of_eq_some hpayload
  have hentrySome := isSome_of_mapM hpayload entry hentry
  rw [Option.isSome_map] at hentrySome
  obtain ⟨sent, hsent⟩ := Option.isSome_iff_exists.mp hentrySome
  cases sent with
  | some sent => exact ⟨sent, hsent⟩
  | none =>
      obtain ⟨hfile, hnull⟩ := payloadEntry_eq_some_none hsent
      have hlookup : elem.payload.lookup entry.1 = some (.json .null) := by
        rw [← hnull]
        exact AList.mem_lookup_iff.mpr hentry
      exact absurd hfile (hnulls elem helem entry.1 hlookup).1

end Form

section RoundTrip

variable {texts : ComposeClient.Texts N F}
  {dataseriesStructure : ComposeClient.DataSeriesStructure C}
  {superParse : List (String × FormValue F) →
    Option (List (String × String) × List (String × F))}
  {variableDecode : List (String × FormValue F) → FormTree (FormValue F)}

theorem mem_texts {stream : List (String × FormValue F)} {key : String}
    (hkey : key ∈ (stream.filterMap asText).map Prod.fst) :
    ∃ value, (key, .text value) ∈ stream := by
  obtain ⟨entry, hentry, rfl⟩ := List.mem_map.mp hkey
  obtain ⟨⟨name, value⟩, hpart, htext⟩ := List.mem_filterMap.mp hentry
  cases value with
  | text value =>
      cases htext
      exact ⟨value, hpart⟩
  | file content => cases htext

theorem mem_files {stream : List (String × FormValue F)} {key : String}
    (hkey : key ∈ (stream.filterMap asFile).map Prod.fst) :
    ∃ content, (key, .file content) ∈ stream := by
  obtain ⟨entry, hentry, rfl⟩ := List.mem_map.mp hkey
  obtain ⟨⟨name, value⟩, hpart, hfile⟩ := List.mem_filterMap.mp hentry
  cases value with
  | text value => cases hfile
  | file content =>
      cases hfile
      exact ⟨content, hpart⟩

/-- A parsed stream is decoded, when no key has both a text and a file. -/
theorem parseMultipart_eq
    (hsuper : ∀ stream data files, superParse stream = some (data, files) →
      data = stream.filterMap asText ∧ files = stream.filterMap asFile)
    {stream : List (String × FormValue F)}
    (hunique : ∀ key first second, (key, first) ∈ stream → (key, second) ∈ stream →
      first = second)
    (haccepts : (superParse stream).isSome) :
    ∃ hadFiles, parseMultipart superParse variableDecode stream =
      .ok ⟨variableDecode (textsFirst stream), true, hadFiles⟩ := by
  obtain ⟨⟨data, files⟩, hresult⟩ := Option.isSome_iff_exists.mp haccepts
  obtain ⟨rfl, rfl⟩ := hsuper _ _ _ hresult
  have hintersect : ((stream.filterMap asFile).map Prod.fst).filter
      (· ∈ (stream.filterMap asText).map Prod.fst) = [] := by
    rw [List.filter_eq_nil_iff]
    intro key hkey hdata
    obtain ⟨content, hfile⟩ := mem_files hkey
    obtain ⟨value, htext⟩ := mem_texts (of_decide_eq_true hdata)
    cases hunique key _ _ hfile htext
  refine ⟨decide (stream.filterMap asFile ≠ []), ?_⟩
  rw [parseMultipart, hresult]
  simp only [hintersect, ne_eq, not_true_eq_false, if_false, merged_eq_textsFirst]

/-- The server reads the batch that the client has written: the data points in their order,
with their external ids, and each value as it was sent. -/
theorem batch_arrives
    (hsuper : ∀ stream data files, superParse stream = some (data, files) →
      data = stream.filterMap asText ∧ files = stream.filterMap asFile)
    (hdecode : ∀ form tree, decodeForm form = some tree → variableDecode form = tree)
    {chunk : List (ComposeClient.DataPoint (Payload N F))}
    (hsafe : ∀ elem ∈ chunk, SafeKeys elem)
    (hnulls : ∀ elem ∈ chunk, NoNulls dataseriesStructure elem)
    {files : List (String × Option (FormValue F))}
    (hfiles : ComposeClient.asBatchFiles texts dataseriesStructure chunk = some files)
    (haccepts : (superParse (ComposeClient.postMultipart files)).isSome) :
    ∃ parsed, parseMultipart superParse variableDecode (ComposeClient.postMultipart files) =
        .ok parsed ∧ parsed.jsonAsString = true ∧
      List.Forall₂ (Arrives (SentAs texts dataseriesStructure)) chunk (batchItems parsed.data) := by
  have hsendable := sendable_of_asBatchFiles hfiles hnulls
  have hposted : ComposeClient.postMultipart files =
      postedParts texts dataseriesStructure chunk := by
    rw [asBatchFiles_eq hsendable] at hfiles
    rw [← Option.some.inj hfiles, postMultipart_some, postedParts]
  rw [hposted] at haccepts ⊢
  obtain ⟨hadFiles, hparse⟩ := @parseMultipart_eq F superParse variableDecode hsuper _
    (fun key first second hfirst hsecond => postedParts_unique hsafe hfirst hsecond) haccepts
  refine ⟨_, hparse, rfl, ?_⟩
  by_cases hempty : chunk = []
  · subst hempty
    rw [hdecode _ (.dictionary []) rfl]
    exact List.Forall₂.nil
  · rw [hdecode _ _ (decodeForm_chunk hempty hsafe)]
    change List.Forall₂ _ chunk (chunk.map (pointTree texts dataseriesStructure))
    rw [List.forall₂_map_right_iff, List.forall₂_same]
    intro elem helem
    exact pointTree_arrives (hsendable elem helem)

end RoundTrip

namespace MultipartWitness

/-- Numbers are written as decimals, and every path is that of a file. -/
def texts : ComposeClient.Texts Nat String where
  number := Nat.repr
  collection _ := ""
  fileObject := id
  dumps
    | .null => "null"
    | .number value => value.repr
    | _ => ""
  openFile path := some ("content of " ++ path)
  bareValue _ := .text ""

def dataseriesStructure : ComposeClient.DataSeriesStructure String
  | .fact .float => [⟨"weight", ⟨"Weight", true⟩⟩]
  | .fact .string => [⟨"label", ⟨"Label", true⟩⟩]
  | .fact .json => [⟨"detail", ⟨"Detail", true⟩⟩]
  | .fact .image => [⟨"photo", ⟨"Photo", true⟩⟩]
  | _ => []

def superParse (stream : List (String × FormValue String)) :
    Option (List (String × String) × List (String × String)) :=
  some (stream.filterMap asText, stream.filterMap asFile)

def variableDecode (form : List (String × FormValue String)) : FormTree (FormValue String) :=
  (decodeForm form).getD (.dictionary [])

def ofEntries (entries : List (Sigma fun _ : String => PayloadValue Nat String)) :
    Payload Nat String := entries.toAList

/-- A data point with a picture, and one with a null and a number. -/
def chunk : List (ComposeClient.DataPoint (Payload Nat String)) :=
  [⟨"first", ofEntries [⟨"photo", .json (.string "a.png")⟩, ⟨"label", .json (.string "x")⟩], true⟩,
    ⟨"second", ofEntries [⟨"detail", .json .null⟩, ⟨"weight", .json (.number 7)⟩], true⟩]

def files : List (String × Option (FormValue String)) :=
  (ComposeClient.asBatchFiles texts dataseriesStructure chunk).getD []

theorem batch_with_picture_arrives :
    ∃ parsed, parseMultipart superParse variableDecode (ComposeClient.postMultipart files) =
        .ok parsed ∧ parsed.jsonAsString = true ∧
      List.Forall₂ (Arrives (SentAs texts dataseriesStructure)) chunk
        (batchItems parsed.data) := by
  apply batch_arrives
  · intro stream data files hresult
    cases hresult
    exact ⟨rfl, rfl⟩
  · intro form tree htree
    rw [variableDecode, htree, Option.getD_some]
  · intro elem helem key hkey
    rw [chunk, List.mem_cons, List.mem_singleton] at helem
    rcases helem with rfl | rfl
    · have hkeys : key ∈ ["photo", "label"] := hkey
      revert key
      decide
    · have hkeys : key ∈ ["detail", "weight"] := hkey
      revert key
      decide
  · intro elem helem key hnull
    rw [chunk, List.mem_cons, List.mem_singleton] at helem
    rcases helem with rfl | rfl
    · have hmem : (⟨key, .json .null⟩ : Sigma fun _ : String => PayloadValue Nat String) ∈
          [⟨"photo", .json (.string "a.png")⟩, ⟨"label", .json (.string "x")⟩] :=
        AList.mem_lookup_iff.mp hnull
      simp at hmem
    · have hmem : (⟨key, .json .null⟩ : Sigma fun _ : String => PayloadValue Nat String) ∈
          [⟨"detail", .json .null⟩, ⟨"weight", .json (.number 7)⟩] :=
        AList.mem_lookup_iff.mp hnull
      have hdetail : key = "detail" := by simpa using hmem
      rw [hdetail]
      decide
  · rfl
  · rfl

/-- What a single data point has under a key on the server. -/
def arrived (payload : Payload Nat String) (key : String) : Option (PayloadValue Nat String) :=
  (ComposeClient.asBatchFiles texts dataseriesStructure [⟨"first", payload, true⟩]).bind
    fun posted =>
      match parseMultipart superParse variableDecode (ComposeClient.postMultipart posted) with
      | .ok parsed => (batchItems parsed.data).head?.bind (payloadOf · key)
      | .error _ => none

theorem rel_arrived {payload : Payload Nat String}
    (htrips : RoundTrips texts dataseriesStructure superParse variableDecode
      [⟨"first", payload, true⟩]) (key : String) :
    Option.Rel Eq (payload.lookup key) (arrived payload key) := by
  obtain ⟨files, parsed, hfiles, hparsed, hsame⟩ := htrips
  have harrived : arrived payload key =
      (batchItems parsed.data).head?.bind (payloadOf · key) := by
    rw [arrived, hfiles, Option.bind_some, hparsed]
  rw [harrived]
  rw [SameBatch] at hsame
  generalize batchItems parsed.data = items at hsame ⊢
  cases hsame with
  | cons hfirst hrest => exact hfirst.payload key

theorem not_roundTrips {payload : Payload Nat String} {key : String}
    {value : PayloadValue Nat String} {found : Option (PayloadValue Nat String)}
    (hvalue : payload.lookup key = some value) (hfound : arrived payload key = found)
    (hchanged : found ≠ some value) :
    ¬ RoundTrips texts dataseriesStructure superParse variableDecode
      [⟨"first", payload, true⟩] := by
  intro htrips
  have hrel := rel_arrived htrips key
  rw [hvalue, hfound] at hrel
  cases hrel with
  | some heq => exact hchanged (congrArg some heq.symm)

/-- A number arrives as a text, the null of a text as the word None, and a value under a
key with a dot not at all. -/
theorem values_change :
    ¬ RoundTrips texts dataseriesStructure superParse variableDecode
        [⟨"first", ofEntries [⟨"weight", .json (.number 1)⟩], true⟩] ∧
      ¬ RoundTrips texts dataseriesStructure superParse variableDecode
        [⟨"first", ofEntries [⟨"label", .json .null⟩], true⟩] ∧
      ¬ RoundTrips texts dataseriesStructure superParse variableDecode
        [⟨"first", ofEntries [⟨"a.b", .json (.string "x")⟩], true⟩] := by
  refine ⟨?_, ?_, ?_⟩
  · exact @not_roundTrips _ "weight" _ (some (.json (.string "1"))) rfl rfl nofun
  · exact @not_roundTrips _ "label" _ (some (.json (.string "None"))) rfl rfl nofun
  · exact @not_roundTrips _ "a.b" _ none rfl rfl nofun

end MultipartWitness

end NFCompose
