import DataConnectHub.Flight.Connectors
import DataConnectHub.RustStd.TryStream
import DataConnectHub.Streaming.Format

/-! Reading a file of rows as a stream of record batches. The octets come in
chunks, cut anywhere, and go through a decoder of the format. The decoder is
asked for a batch whenever it takes no more octets, and once more at the end. -/
namespace DataConnectHub.FormatReaders

open Flight RustStd Streaming

/-- The chunks of an object as they arrive. A read may fail. -/
abbrev ByteStream := List (Except String (List UInt8))

variable {Batch Schema : Type}

/-- The decoders of the Arrow library and how they are made for a schema and a
size of batches. -/
structure Arrow (Batch Schema : Type) where
  csv : Machine UInt8 Batch String
  json : Machine UInt8 Batch String
  buildCsv : Schema → Nat → csv.State
  buildJson : Schema → Nat → Except String json.State

inductive Decoder (arrow : Arrow Batch Schema) where
  | csv (decoder : arrow.csv.State)
  | json (decoder : arrow.json.State)

namespace Decoder

variable {arrow : Arrow Batch Schema}

def decode : Decoder arrow → List UInt8 → Except String (Nat × Decoder arrow)
  | .csv decoder, octets => (arrow.csv.decode decoder octets).map fun (taken, next) => (taken, .csv next)
  | .json decoder, octets => (arrow.json.decode decoder octets).map fun (taken, next) => (taken, .json next)

def flush : Decoder arrow → Except String (Option Batch × Decoder arrow)
  | .csv decoder => (arrow.csv.flush decoder).map fun (batch, next) => (batch, .csv next)
  | .json decoder => (arrow.json.flush decoder).map fun (batch, next) => (batch, .json next)

/-- Either decoder as one machine. -/
def machine (arrow : Arrow Batch Schema) : Machine UInt8 Batch String where
  State := Decoder arrow
  decode := decode
  flush := flush

end Decoder

section Loop

variable (machine : Machine UInt8 Batch String) (format : String)

def decodeError (error : String) : ConnectorError := .ioError s!"{format} decode error: {error}"
def flushError (error : String) : ConnectorError := .ioError s!"{format} flush error: {error}"
def readError (error : String) : ConnectorError := .ioError s!"{format} stream read error: {error}"
def openError (error : String) : ConnectorError := .ioError s!"Failed to open {format} stream: {error}"

/-- The inner loop, from an offset into a chunk. It has no outcome when the
fuel does not last. -/
def decodeChunk (chunk : List UInt8) : Nat → Nat → machine.State → TryStream Batch ConnectorError machine.State
  | fuel, offset, decoder =>
    if offset < chunk.length then
      match fuel with
      | 0 => none
      | fuel + 1 =>
        (TryStream.ofResult (mapErr (decodeError format) (machine.decode decoder (chunk.drop offset)))).andThen
          fun (consumed, decoder) =>
            if consumed = 0 then
              (TryStream.ofResult (mapErr (flushError format) (machine.flush decoder))).andThen fun
                | (some batch, decoder) =>
                  (TryStream.yield batch).andThen fun _ => decodeChunk chunk fuel offset decoder
                | (none, decoder) => .pure decoder
            else decodeChunk chunk fuel (offset + consumed) decoder
    else .pure decoder

/-- The outer loop. -/
def decodeChunks (fuel : Nat) : ByteStream → machine.State → TryStream Batch ConnectorError machine.State
  | [], decoder => .pure decoder
  | .error error :: _, _ => .throw (readError format error)
  | .ok chunk :: rest, decoder =>
    (decodeChunk machine format chunk fuel 0 decoder).andThen (decodeChunks fuel rest)

/-- The end of the input, where a partial record is finalized. -/
def decodeEnd (decoder : machine.State) : TryStream Batch ConnectorError Unit :=
  (TryStream.ofResult (mapErr (decodeError format) (machine.decode decoder []))).andThen fun (_, decoder) =>
    (TryStream.ofResult (mapErr (flushError format) (machine.flush decoder))).andThen fun
      | (some batch, _) => .yield batch
      | (none, _) => .pure ()

end Loop

section Readers

variable {arrow : Arrow Batch Schema}

abbrev BatchStream (Batch : Type) := TryStream Batch ConnectorError Unit

def decodeStream (fuel : Nat) (reader : Except String ByteStream) (decoder : Decoder arrow) (format : String) :
    Except ConnectorError (BatchStream Batch) := do
  let stream ← mapErr (openError format) reader
  return (decodeChunks (Decoder.machine arrow) format fuel stream decoder).andThen
    (decodeEnd (Decoder.machine arrow) format)

def readCsvBatches (arrow : Arrow Batch Schema) (fuel : Nat) (reader : Except String ByteStream)
    (schema : Schema) (batchSize : Nat) : Except ConnectorError (BatchStream Batch) :=
  decodeStream fuel reader (Decoder.csv (arrow.buildCsv schema batchSize)) "CSV"

def readJsonlBatches (arrow : Arrow Batch Schema) (fuel : Nat) (reader : Except String ByteStream)
    (schema : Schema) (batchSize : Nat) : Except ConnectorError (BatchStream Batch) := do
  let decoder ← mapErr (fun error => .ioError s!"Failed to build JSONL decoder: {error}")
    (arrow.buildJson schema batchSize)
  decodeStream fuel reader (Decoder.json decoder) "JSONL"

end Readers

end DataConnectHub.FormatReaders
