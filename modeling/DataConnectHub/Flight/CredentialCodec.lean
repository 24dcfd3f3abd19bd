import DataConnectHub.Flight.Actions

/-! Credentials on their way from the REST service, which asks for them to be
tested, to the Flight service, which tests them. They travel as one record batch
of two columns, keys and values, in the octets of an Arrow stream. The key of the
connection type and the prefixed keys of the credentials share the first column. -/
namespace DataConnectHub.Flight

open Serde Http Http.Grpc RustStd

/-- The Arrow stream format: a writer made for the columns of a schema, which
takes batches and ends in octets, and the reader of octets. -/
structure ArrowIpc where
  Writer : Type
  tryNew : List String → Except String Writer
  write : Writer → RecordBatch → Except String Writer
  finish : Writer → Except String (List UInt8)
  read : List UInt8 → ActionBody

def RecordBatch.schema (batch : RecordBatch) : List String :=
  batch.map Prod.fst

/-- A batch of two columns of strings of one length comes back as it was
written. -/
def ArrowIpc.Lossless (ipc : ArrowIpc) : Prop :=
  ∀ (first second : String) (keys values : List String), keys.length = values.length →
    let batch : RecordBatch := [(first, .utf8 keys), (second, .utf8 values)]
    ∃ body, (do
        let writer ← ipc.tryNew batch.schema
        let writer ← ipc.write writer batch
        ipc.finish writer) = .ok body ∧
      ipc.read body = .ok [.ok batch]

/-- `RecordBatch::try_from_iter`. -/
def RecordBatch.tryFromIter : List (String × List String) → Except String RecordBatch
  | [] => .error "Invalid argument error: must either specify a row count or at least one column"
  | (name, values) :: columns =>
    if columns.all fun column => column.2.length == values.length then
      .ok (((name, values) :: columns).map fun column => (column.1, .utf8 column.2))
    else .error "Invalid argument error: all columns in a record batch must have the same length"

/-- The two columns that `FlightClient::test_credentials` fills, in the order in
which it meets the entries of the map. -/
def credentialColumns (creds : Rest.TestCredentials) : List String × List String :=
  creds.credentials.entries.foldl (fun (keys, values) entry => (keys ++ [secretPrefix ++ entry.1], values ++ [entry.2]))
    ([dataConnectionTypeIdKey], [creds.dataConnectionTypeId])

/-- The body of the request of `FlightClient::test_credentials`. -/
def encodeCredentials (ipc : ArrowIpc) (creds : Rest.TestCredentials) : Except Status (List UInt8) := do
  let (keys, values) := credentialColumns creds
  let batch ← mapErr (fun error => ⟨.internal, s!"failed to build credentials batch: {error}"⟩)
    (RecordBatch.tryFromIter [("key", keys), ("value", values)])
  let writer ← mapErr (fun error => ⟨.internal, s!"failed to create IPC writer: {error}"⟩) (ipc.tryNew batch.schema)
  let writer ← mapErr (fun error => ⟨.internal, s!"failed to write IPC batch: {error}"⟩) (ipc.write writer batch)
  mapErr (fun error => ⟨.internal, s!"failed to finish IPC stream: {error}"⟩) (ipc.finish writer)

section RoundTrip

variable {ipc : ArrowIpc} {creds : Rest.TestCredentials}

theorem credentialColumns_eq (creds : Rest.TestCredentials) : credentialColumns creds =
      (dataConnectionTypeIdKey :: creds.credentials.entries.map fun entry => secretPrefix ++ entry.1,
        creds.dataConnectionTypeId :: creds.credentials.entries.map fun entry => entry.2) := by
  have hFold : ∀ (entries : List (Sigma fun _ : String => String)) (keys values : List String),
      entries.foldl (fun (keys, values) entry => (keys ++ [secretPrefix ++ entry.1], values ++ [entry.2]))
        (keys, values) =
      (keys ++ entries.map fun entry => secretPrefix ++ entry.1, values ++ entries.map fun entry => entry.2) := by
    intro entries
    induction entries with
    | nil => simp
    | cons entry entries ih =>
      intro keys values
      rw [List.foldl_cons, ih]
      simp
  exact hFold _ _ _

theorem tryFromIter_pair {first second : String} {keys values : List String} (h : values.length = keys.length) :
    RecordBatch.tryFromIter [(first, keys), (second, values)] = .ok [(first, .utf8 keys), (second, .utf8 values)] := by
  simp [RecordBatch.tryFromIter, h]

/-- The octets that are sent are read as the body of keys and values. -/
theorem read_encodeCredentials (hIpc : ipc.Lossless) (creds : Rest.TestCredentials) :
    ∃ body, encodeCredentials ipc creds = .ok body ∧
      ipc.read body = credentialsBody creds.dataConnectionTypeId creds.credentials := by
  obtain ⟨body, hWritten, hRead⟩ := hIpc "key" "value"
    (dataConnectionTypeIdKey :: creds.credentials.entries.map fun entry => secretPrefix ++ entry.1)
    (creds.dataConnectionTypeId :: creds.credentials.entries.map fun entry => entry.2) (by simp)
  refine ⟨body, ?_, hRead⟩
  obtain ⟨opened, hOpened, hWritten⟩ := bind_eq_ok.mp hWritten
  obtain ⟨written, hBatch, hFinished⟩ := bind_eq_ok.mp hWritten
  unfold encodeCredentials
  rw [credentialColumns_eq]
  refine bind_eq_ok.mpr ⟨_, mapErr_eq_ok.mpr (tryFromIter_pair (by simp)), ?_⟩
  refine bind_eq_ok.mpr ⟨opened, mapErr_eq_ok.mpr hOpened, ?_⟩
  exact bind_eq_ok.mpr ⟨written, mapErr_eq_ok.mpr hBatch, mapErr_eq_ok.mpr hFinished⟩

/-- What the Flight service decodes is what the REST service encoded: no key of
the credentials is taken for the key of the type or for another one. -/
theorem credentials_roundtrip (hIpc : ipc.Lossless) (creds : Rest.TestCredentials) : ∃ body credentials,
      encodeCredentials ipc creds = .ok body ∧
      decodeCredentials (ipc.read body) = .ok (creds.dataConnectionTypeId, credentials) ∧
      ∀ key, credentials.lookup key = creds.credentials.lookup key := by
  obtain ⟨body, hBody, hRead⟩ := read_encodeCredentials hIpc creds
  refine ⟨body, _, hBody, ?_, lookup_sent creds.dataConnectionTypeId⟩
  unfold decodeCredentials
  rw [hRead, parseKvBody_credentialsBody]
  exact bind_eq_ok.mpr ⟨_, rfl, bind_eq_ok.mpr ⟨_, okOr_eq_ok.mpr (lookup_typeId _), rfl⟩⟩

end RoundTrip

section Sample

variable {Item : Type} {put : Item → List UInt8} {get : List UInt8 → Option (Item × List UInt8)}

/-- A list in octets: a one in front of every item, a zero at the end. -/
def putList (put : Item → List UInt8) : List Item → List UInt8
  | [] => [0]
  | item :: items => 1 :: (put item ++ putList put items)

def getItems (get : List UInt8 → Option (Item × List UInt8)) : Nat → List UInt8 → Option (List Item × List UInt8)
  | _, 0 :: rest => some ([], rest)
  | fuel + 1, 1 :: rest => do
      let (item, rest) ← get rest
      let (items, rest) ← getItems get fuel rest
      return (item :: items, rest)
  | _, _ => none

def getList (get : List UInt8 → Option (Item × List UInt8)) (octets : List UInt8) : Option (List Item × List UInt8) :=
  getItems get octets.length octets

theorem length_le_putList (items : List Item) : items.length ≤ (putList put items).length := by
  induction items with
  | nil => simp
  | cons item items ih =>
    simp only [putList, List.length_cons, List.length_append]
    omega

theorem getItems_putList (hItem : ∀ item rest, get (put item ++ rest) = some (item, rest))
    (items : List Item) (rest : List UInt8) :
    ∀ fuel, items.length ≤ fuel → getItems get fuel (putList put items ++ rest) = some (items, rest) := by
  induction items with
  | nil =>
    intro fuel _
    simp [putList, getItems]
  | cons item items ih =>
    intro fuel hFuel
    cases fuel with
    | zero => simp at hFuel
    | succ fuel =>
      have hRest := ih fuel (by simpa using hFuel)
      simp [putList, getItems, hItem, hRest]

theorem getList_putList (hItem : ∀ item rest, get (put item ++ rest) = some (item, rest))
    (items : List Item) (rest : List UInt8) :
    getList get (putList put items ++ rest) = some (items, rest) := by
  apply getItems_putList hItem
  calc items.length ≤ (putList put items).length := length_le_putList items
    _ ≤ (putList put items ++ rest).length := by simp

/-- A character as the three octets of its scalar value. -/
def putChar (c : Char) : List UInt8 :=
  [UInt8.ofNat c.toNat, UInt8.ofNat (c.toNat / 256), UInt8.ofNat (c.toNat / 65536)]

def getChar : List UInt8 → Option (Char × List UInt8)
  | low :: middle :: high :: rest =>
    some (Char.ofNat (low.toNat + 256 * middle.toNat + 65536 * high.toNat), rest)
  | _ => none

theorem getChar_putChar (c : Char) (rest : List UInt8) : getChar (putChar c ++ rest) = some (c, rest) := by
  have hBound : c.toNat < 0x110000 := by
    rcases c.valid with hLow | ⟨-, hHigh⟩
    · exact hLow.trans (by decide)
    · exact hHigh
  have hValue : c.toNat % 256 + 256 * (c.toNat / 256 % 256) + 65536 * (c.toNat / 65536 % 256) = c.toNat := by
    omega
  simp [putChar, getChar, hValue]

def putText (text : String) : List UInt8 :=
  putList putChar text.toList

def getText (octets : List UInt8) : Option (String × List UInt8) :=
  (getList getChar octets).map fun (text, rest) => (String.ofList text, rest)

theorem getText_putText (text : String) (rest : List UInt8) : getText (putText text ++ rest) = some (text, rest) := by
  simp [getText, putText, getList_putList getChar_putChar]

/-- A stream of texts: the names of the columns, then each batch as the values
of its columns. A writer refuses columns of another kind. -/
def textStream : ArrowIpc where
  Writer := List String × List (List (List String))
  tryNew names := .ok (names, [])
  write writer batch :=
    match batch.mapM fun column => (match column.2 with | .utf8 values => some values | .other => none) with
    | some columns => .ok (writer.1, writer.2 ++ [columns])
    | none => .error "only columns of strings can be written"
  finish writer := .ok (putList putText writer.1 ++ putList (putList (putList putText)) writer.2)
  read octets :=
    match getList getText octets with
    | some (names, rest) =>
      match getList (getList (getList getText)) rest with
      | some (batches, _) => .ok (batches.map fun columns => .ok (names.zip (columns.map .utf8)))
      | none => .error "batches expected"
    | none => .error "schema expected"

theorem textStream_lossless : textStream.Lossless := by
  intro first second keys values _
  refine ⟨_, rfl, ?_⟩
  have hTexts := getList_putList getText_putText
  have hBatches := getList_putList (getList_putList hTexts) [[keys, values]] []
  rw [List.append_nil] at hBatches
  simp [textStream, RecordBatch.schema, hTexts, hBatches]

/-- Credentials whose names look like the key of the type and like a key that
already has the prefix. -/
def awkwardCredentials : Rest.TestCredentials where
  dataConnectionTypeId := "sql"
  credentials := collect [("", "a"), ("data_connection_type_id", "b"), ("secret.", "c"), ("secret.x", "d")]

theorem credentials_roundtrip_awkward : ∃ body credentials, encodeCredentials textStream awkwardCredentials = .ok body ∧
      decodeCredentials (textStream.read body) = .ok ("sql", credentials) ∧
      ∀ key, credentials.lookup key = awkwardCredentials.credentials.lookup key :=
  credentials_roundtrip textStream_lossless awkwardCredentials

end Sample

end DataConnectHub.Flight
