import DataConnectHub.Flight.Connectors
import DataConnectHub.RustStd.Str

/-! The format of a file, from the `format` property of its connection or else
from its name. Lower-casing follows the Unicode tables, which are not part of
this development: it is a parameter. -/
namespace DataConnectHub.FormatReaders

open Flight RustStd

inductive FileFormat where
  | parquet
  | csv
  | jsonLines
  | json
  deriving DecidableEq, Repr

def FileFormat.fromFormatStr (toLowercase : String → String) (fmt : String) : Except ConnectorError FileFormat :=
  match toLowercase fmt with
  | "parquet" => .ok .parquet
  | "csv" => .ok .csv
  | "jsonl" | "ndjson" | "jsonlines" => .ok .jsonLines
  | "json" => .ok .json
  | other => .error (.invalidRequest s!"Unsupported format: {other}")

def FileFormat.detect (toLowercase : String → String) (path : String) (properties : Option String) :
    Except ConnectorError FileFormat :=
  match properties with
  | some fmt => fromFormatStr toLowercase fmt
  | none =>
    let lower := toLowercase (firstPart '?' path)
    if endsWith lower ".parquet" then .ok .parquet
    else if endsWith lower ".csv" then .ok .csv
    else if endsWith lower ".jsonl" || endsWith lower ".ndjson" || endsWith lower ".jsonlines" then
      .ok .jsonLines
    else if endsWith lower ".json" then .ok .json
    else .error (.invalidRequest s!"Cannot detect format for path: {path}. Set 'format' in connection properties.")

/-- A parsed media type; its names are in lower case. -/
structure Mime where
  type : String
  subtype : String
  suffix : Option String

/-- The suffix `+json` counts whatever the type is. -/
def FileFormat.fromContentType (parse : String → Except String Mime) (contentType : String) :
    Except ConnectorError FileFormat := do
  let mediaType ← mapErr (fun e => .invalidRequest s!"Invalid Content-Type '{contentType}': {e}") (parse contentType)
  if mediaType.suffix = some "json" then return .json
  if mediaType.type = "text" ∧ mediaType.subtype = "csv" then return .csv
  if mediaType.type = "application" then
    if mediaType.subtype = "json" then return .json
    if mediaType.subtype ∈ ["x-ndjson", "ndjson", "jsonl", "jsonlines", "x-jsonlines"] then return .jsonLines
    if mediaType.subtype ∈ ["vnd.apache.parquet", "x-parquet"] then return .parquet
  throw (.invalidRequest s!"Cannot determine format from Content-Type '{contentType}'")

end DataConnectHub.FormatReaders
