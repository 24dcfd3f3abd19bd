import DataConnectHub.Arrow.RecordBatch
import DataConnectHub.Flight.Connectors
import DataConnectHub.RustStd.TryStream
import DataConnectHub.Serde.Value
import DataConnectHub.Streaming.Format

/-! Reading a JSON document of rows as a stream of record batches. The rows are
cut into chunks, and each chunk is written out again, a row a line, for the JSON
reader of the Arrow library. -/
namespace DataConnectHub.FormatReaders

open Serde Flight RustStd

/-- What is used of the libraries: how a document is parsed, how floats are
written, and the items that the iterator of a JSON reader gives for a text. -/
structure JsonLibrary (Batch : Type) where
  fromSlice : List UInt8 → Except String Json
  displayFloat : Number → String
  build : Arrow.Schema → Nat → String → Except String (List (Except String Batch))

def resolveDataPath (value : Json) (path : String) : Option Json :=
  (path.splitOn ".").foldlM (fun current segment => current.field? segment) value

def extractRows (response : Json) (dataPath : Option String) : Except ConnectorError (List Json) := do
  let target ← match dataPath with
    | some path => okOr (.invalidRequest s!"data_path '{path}' not found in response") (resolveDataPath response path)
    | none => .ok response
  okOr (.invalidRequest "Response data is not a JSON array") target.asArray

variable {Batch : Type} (library : JsonLibrary Batch) (schema : Arrow.Schema) (batchSize : Nat)

/-- The rows of a chunk, each on a line of its own. -/
def jsonLines (rows : List Json) : String :=
  .join (rows.map fun row => row.display library.displayFloat ++ "\n")

def buildReader (rows : List Json) : Except ConnectorError (List (Except String Batch)) :=
  mapErr (fun e => .ioError s!"Failed to build JSON reader: {e}")
    (library.build schema batchSize (jsonLines library rows))

/-- The inner loop, over the batches of one reader. -/
def yieldBatches : List (Except String Batch) → TryStream Batch ConnectorError Unit
  | [] => .pure ()
  | .error e :: _ => .throw (.ioError s!"JSON decode error: {e}")
  | .ok batch :: rest => (TryStream.yield batch).andThen fun _ => yieldBatches rest

def readChunks : List (List Json) → TryStream Batch ConnectorError Unit
  | [] => .pure ()
  | chunk :: chunks =>
    (TryStream.ofResult (buildReader library schema batchSize chunk)).andThen fun reader =>
      (yieldBatches reader).andThen fun _ => readChunks chunks

/-- The stream has no outcome for a size of zero, where cutting into chunks panics. -/
def readJsonBatches (data : List UInt8) (dataPath : Option String) : TryStream Batch ConnectorError Unit :=
  (TryStream.ofResult (mapErr (fun e => .ioError s!"Failed to parse JSON: {e}") (library.fromSlice data))).andThen
    fun json => (TryStream.ofResult (extractRows json dataPath)).andThen fun rows =>
      if batchSize = 0 then none else readChunks library schema batchSize (Streaming.groups batchSize rows)

variable {library schema batchSize}

/-- Chunks for which the reader gives one batch each give these batches. -/
theorem readChunks_ok {chunks : List (List Json)} {batches : List Batch} (h : List.Forall₂ (fun chunk batch =>
      library.build schema batchSize (jsonLines library chunk) = .ok [.ok batch]) chunks batches) :
    readChunks library schema batchSize chunks = some ⟨batches, .ok ()⟩ := by
  induction h with
  | nil => rfl
  | cons hBuild _ ih =>
    rw [readChunks, buildReader, hBuild]
    change (TryStream.pure _).andThen _ = _
    rw [TryStream.pure_andThen, ih]
    rfl

end DataConnectHub.FormatReaders
