import DataConnectHub.Milvus.Schema

/-! Queries of the Milvus connector. A query is the body of a request to the
server, and the members of that body say which kind of request it is. -/
namespace DataConnectHub.Milvus

open Serde RustStd Flight

structure MilvusRequestInput where
  collectionName : String
  operation : MilvusOperation
  limit : Option Int64
  offset : Option Int64
  body : Json

namespace MilvusRequestInput

def operationOf (members : Members) : MilvusOperation :=
  if (members.lookup "data").isSome then .search
  else if (members.lookup "id").isSome then .get
  else .query

/-- What is accepted of an object. A bound that is no integer of 64 bits is read
as if there were none. -/
def ofMembers (members : Members) : Except ConnectorError MilvusRequestInput := do
  let collectionName ← okOr (.invalidRequest "'collectionName' is required")
    ((members.lookup "collectionName").bind Json.asStr)
  return {
    collectionName
    operation := operationOf members
    limit := (members.lookup "limit").bind Json.asI64
    offset := (members.lookup "offset").bind Json.asI64
    body := .object members }

def parse (fromStr : String → Except String Json) (query : String) : Except ConnectorError MilvusRequestInput := do
  let value ← mapErr (fun e => .invalidRequest s!"Invalid Milvus JSON query: {e}") (fromStr query)
  let members ← okOr (.invalidRequest "Query must be a JSON object") value.asObject
  ofMembers members

/-- The body of the request for one page. -/
def pageBody (request : MilvusRequestInput) (limit offset : Int) : Json :=
  match request.body with
  | .object members => .object (Json.put "offset" (.number ⟨offset, 0⟩) (Json.put "limit" (.number ⟨limit, 0⟩) members))
  | other => other

variable {request : MilvusRequestInput}

theorem of_parse {fromStr : String → Except String Json} {query : String} {members : Members}
    (hQuery : fromStr query = .ok (.object members)) (h : parse fromStr query = .ok request) :
    request.operation = operationOf members ∧ request.limit = (members.lookup "limit").bind Json.asI64 ∧
      request.offset = (members.lookup "offset").bind Json.asI64 ∧ request.body = .object members := by
  rw [parse, hQuery] at h
  change ofMembers members = .ok request at h
  obtain ⟨collectionName, -, hRequest⟩ := bind_eq_ok.mp h
  cases hRequest
  exact ⟨rfl, rfl, rfl, rfl⟩

theorem field?_pageBody {members : Members} (hBody : request.body = .object members) (limit offset : Int)
    (name : String) :
    (request.pageBody limit offset).field? name = if name = "offset" then some (.number ⟨offset, 0⟩)
      else if name = "limit" then some (.number ⟨limit, 0⟩)
      else members.lookup name := by
  rw [pageBody, hBody]
  change List.lookup name (Json.put _ _ _) = _
  rw [Json.lookup_put, Json.lookup_put]

end MilvusRequestInput

end DataConnectHub.Milvus
