import DataConnectHub.Api.Resources

/-! The checks of a connection type and the names of the data formats. -/
namespace DataConnectHub

open Serde

inductive DataConnectionTypeError where
  | missingRequiredField (field : String)
  | emptyValue (field : String) (index : Option Nat)
  deriving DecidableEq, Repr

def DataConnectionTypeError.display : DataConnectionTypeError → String
  | .missingRequiredField field => s!"Required field {field} is missing"
  | .emptyValue field index =>
    let position := (index.map fun i => s!" (index {i})").getD ""
    s!"{field} must not be empty or whitespace-only{position}"

namespace DataFormat

def display : DataFormat → String
  | .tabular => "tabular"
  | .binary => "binary"

def fromString : String → Except String DataFormat
  | "tabular" => .ok .tabular
  | "binary" => .ok .binary
  | other => .error s!"invalid data format: {other}"

theorem fromString_display (format : DataFormat) : fromString format.display = .ok format := by
  cases format <;> rfl

end DataFormat

/-- The characters that `trim` removes, those with the property `White_Space`. -/
def isWhitespace (char : Char) : Bool :=
  let code := char.toNat
  (0x09 ≤ code && code ≤ 0x0d) || code == 0x20 || code == 0x85 || code == 0xa0 || code == 0x1680 ||
    (0x2000 ≤ code && code ≤ 0x200a) || code == 0x2028 || code == 0x2029 || code == 0x202f ||
    code == 0x205f || code == 0x3000

/-- `text.trim().is_empty()`. -/
def isBlank (text : String) : Bool :=
  text.toList.all isWhitespace

/-- `text.trim()`. -/
def trim (text : String) : String :=
  String.ofList ((text.toList.dropWhile isWhitespace).reverse.dropWhile isWhitespace).reverse

namespace DataConnectionType

def checkCredentialsSchema (type : DataConnectionType) (secret : StringMap String) :
    Except DataConnectionTypeError Unit :=
  match type.credentialsFields.find? fun field => field.required && (secret.lookup field.name).isNone with
  | some field => .error (.missingRequiredField field.name)
  | none => .ok ()

def validateLabel (type : DataConnectionType) : Except DataConnectionTypeError Unit :=
  match type.label with
  | some label => if isBlank label then .error (.emptyValue "label" none) else .ok ()
  | none => .ok ()

def validateTags (type : DataConnectionType) : Except DataConnectionTypeError Unit :=
  match (type.tags.getD []).findIdx? isBlank with
  | some index => .error (.emptyValue "tag" (some index))
  | none => .ok ()

end DataConnectionType
end DataConnectHub
