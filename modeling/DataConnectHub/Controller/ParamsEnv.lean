import Mathlib.Data.List.AList
import Mathlib.Data.List.DropRight
import Mathlib.Data.List.Induction

/-! The parameters of a kustomization, a file of `key=value` lines. Values of the
controller are put over those of the file, and the file is written again. -/
namespace DataConnectHub.Controller

open List

abbrev Text := List Char

abbrev Entry := (_ : Text) × Text

abbrev Params := AList fun _ : Text => Text

section Code

/-- `unicode.IsSpace`. -/
def isSpace (c : Char) : Bool :=
  let n := c.toNat
  (9 ≤ n && n ≤ 13) || n == 32 || n == 0x85 || n == 0xa0 || n == 0x1680 || (0x2000 ≤ n && n ≤ 0x200a) ||
    n == 0x2028 || n == 0x2029 || n == 0x202f || n == 0x205f || n == 0x3000

def trimRight (text : Text) : Text := text.rdropWhile isSpace

/-- `strings.TrimSpace`. -/
def trimSpace (text : Text) : Text := (trimRight text).dropWhile isSpace

def putEntry (params : Params) (entry : Entry) : Params := params.insert entry.1 entry.2

def overlay (quote : Text → String) (path : String) (params : Params) : List Entry → Except String Params
  | [] => .ok params
  | entry :: rest =>
    if trimSpace entry.2 = [] ∨ '\r' ∈ entry.2 ∨ '\n' ∈ entry.2 then
      .error s!"invalid params.env value for key {quote entry.1}"
    else if entry.1 ∈ params then overlay quote path (putEntry params entry) rest
    else .error s!"params.env key {quote entry.1} not found in {path}"

end Code

section Maps

variable (params : Params) (entries : List Entry)

variable {params entries} {entry : Entry}

end Maps

section Reading

variable {text line key value : Text}

end Reading

end DataConnectHub.Controller
