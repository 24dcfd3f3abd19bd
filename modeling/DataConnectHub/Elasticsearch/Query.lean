import DataConnectHub.Flight.Connectors
import DataConnectHub.Serde.Value

/-! Queries of the Elasticsearch connector. A query is the body of a search,
with the name of an index beside it. For a page of a search the body gets a
point in time, the size of the page, an order that no two hits share a place
in, and the place to go on from. -/
namespace DataConnectHub.Elasticsearch

open Serde Flight RustStd

/-- A query; `body` has the members of the object. -/
structure EsRequestInput where
  index : Option String
  body : Members
  size : Option UInt64
  hasUserSort : Bool

namespace EsRequestInput

/-- What is accepted of an object. -/
def ofMembers (members : Members) : Except ConnectorError EsRequestInput :=
  let body := members.filter fun member => member.1 != "index"
  match body.lookup "_source" with
  | some (.bool false) => .error (.invalidRequest
      "\"_source\": false is not supported; this connector reads data from _source")
  | _ => .ok
      { index := (members.lookup "index").bind Json.asStr
        body
        size := (body.lookup "size").bind Json.asU64
        hasUserSort := (body.lookup "sort").isSome }

def parse (fromStr : String → Except String Json) (query : String) : Except ConnectorError EsRequestInput := do
  let value ← mapErr (fun e => .invalidRequest s!"Invalid JSON: {e}") (fromStr query)
  let members ← okOr (.invalidRequest "Query must be a JSON object") value.asObject
  ofMembers members

def resolveIndex (request : EsRequestInput) (defaultIndex : Option String) : Except ConnectorError String :=
  okOr (.invalidRequest
    "No index specified: set 'index' in the query or configure a default index in connection properties")
    (request.index.or defaultIndex)

end EsRequestInput

/-- The sort key that separates any two documents of a point in time. -/
def shardDoc : Json := .object [("_shard_doc", .string "asc")]

def isShardDoc (sort : Json) : Bool :=
  (sort.asObject.any fun members => (members.lookup "_shard_doc").isSome) || sort.asStr == some "_shard_doc"

namespace EsRequestInput

/-- The order of a search; one that is no list is left as it is. -/
def withSort (request : EsRequestInput) (members : Members) : Members :=
  if !request.hasUserSort then Json.put "sort" (.array [shardDoc]) members
  else
    match members.lookup "sort" with
    | some (.array items) =>
      if items.any isShardDoc then members else Json.put "sort" (.array (items ++ [shardDoc])) members
    | _ => members

def withSearchAfter (searchAfter : Option Json) (members : Members) : Members :=
  match searchAfter with
  | some sa => Json.put "search_after" sa members
  | none => members

def buildPitSearchBody (request : EsRequestInput) (pitId : String) (pageSize : Nat) (searchAfter : Option Json) :
    Json :=
  let members := Json.put "pit" (.object [("id", .string pitId), ("keep_alive", .string "5m")]) request.body
  let members := Json.put "size" (.number ⟨pageSize, 0⟩) members
  .object (withSearchAfter searchAfter (request.withSort members))

/-- The order that a search of the request has. -/
def sort (request : EsRequestInput) : Option Json :=
  if !request.hasUserSort then some (.array [shardDoc])
  else
    match request.body.lookup "sort" with
    | some (.array items) => some (.array (if items.any isShardDoc then items else items ++ [shardDoc]))
    | other => other

theorem lookup_withSort (request : EsRequestInput) {members : Members}
    (hSort : members.lookup "sort" = request.body.lookup "sort") (name : String) :
    (request.withSort members).lookup name = if name = "sort" then request.sort else members.lookup name := by
  unfold withSort sort
  by_cases hUser : (!request.hasUserSort) = true
  · rw [if_pos hUser, if_pos hUser, Json.lookup_put]
  · rw [if_neg hUser, if_neg hUser, hSort]
    split
    next items hItems =>
        by_cases hShard : items.any isShardDoc = true
        · rw [if_pos hShard, if_pos hShard]
          split
          next hName => rw [hName, hSort, hItems]
          · rfl
        · rw [if_neg hShard, if_neg hShard, Json.lookup_put]
    · split
      next hName => rw [hName, hSort]
      · rfl

/-- The members of the body of a search. -/
theorem field?_buildPitSearchBody (request : EsRequestInput) (pitId : String) (pageSize : Nat)
    (searchAfter : Option Json) (name : String) :
    (request.buildPitSearchBody pitId pageSize searchAfter).field? name =
      if name = "search_after" then searchAfter.or (request.body.lookup name)
      else if name = "sort" then request.sort
      else if name = "size" then some (.number ⟨pageSize, 0⟩)
      else if name = "pit" then some (.object [("id", .string pitId), ("keep_alive", .string "5m")])
      else request.body.lookup name := by
  have hSort : (Json.put "size" (.number ⟨pageSize, 0⟩) (Json.put "pit"
      (.object [("id", .string pitId), ("keep_alive", .string "5m")]) request.body)).lookup "sort" =
      request.body.lookup "sort" := by
    rw [Json.lookup_put, if_neg (by decide), Json.lookup_put, if_neg (by decide)]
  have hMembers (name : String) : (request.withSort (Json.put "size" (.number ⟨pageSize, 0⟩) (Json.put "pit"
      (.object [("id", .string pitId), ("keep_alive", .string "5m")]) request.body))).lookup name =
      if name = "sort" then request.sort
      else if name = "size" then some (.number ⟨pageSize, 0⟩)
      else if name = "pit" then some (.object [("id", .string pitId), ("keep_alive", .string "5m")])
      else request.body.lookup name := by
    rw [lookup_withSort request hSort, Json.lookup_put, Json.lookup_put]
  change (withSearchAfter searchAfter _).lookup name = _
  cases searchAfter with
  | none =>
    refine (hMembers name).trans ?_
    by_cases hName : name = "search_after"
    · subst hName
      rfl
    · rw [if_neg hName]
  | some sa =>
    rw [withSearchAfter, Json.lookup_put, hMembers]
    rfl

/-- An accepted query is an object; all of it but the index is in the body. -/
theorem of_parse {fromStr : String → Except String Json} {query : String} {request : EsRequestInput}
    {members : Members} (hQuery : fromStr query = .ok (.object members)) (h : parse fromStr query = .ok request) :
    request.size = (members.lookup "size").bind Json.asU64 ∧
      ∀ name, name ≠ "index" → request.body.lookup name = members.lookup name := by
  have hLookup (name : String) (hName : name ≠ "index") :
      (members.filter fun member => member.1 != "index").lookup name = members.lookup name := by
    rw [Json.lookup_filter_ne, if_neg hName]
  rw [parse, hQuery] at h
  change ofMembers members = .ok request at h
  unfold ofMembers at h
  dsimp only at h
  split at h
  · cases h
  · cases h
    exact ⟨by dsimp only; rw [hLookup "size" (by decide)], hLookup⟩

end EsRequestInput

/-- What decides which hits a search has, and in which order: all but the point
in time and the page. -/
abbrev Criteria := String → Option Json

def criteriaOf (body : Json) : Criteria := fun name =>
  if name ∈ ["pit", "size", "search_after"] then none else body.field? name

def EsRequestInput.criteria (request : EsRequestInput) : Criteria := fun name =>
  if name ∈ ["pit", "size", "search_after"] then none
  else if name = "sort" then request.sort
  else request.body.lookup name

/-- Every page of a request is searched by the same criteria. -/
theorem criteriaOf_buildPitSearchBody (request : EsRequestInput) (pitId : String) (pageSize : Nat)
    (searchAfter : Option Json) :
    criteriaOf (request.buildPitSearchBody pitId pageSize searchAfter) = request.criteria := by
  funext name
  unfold criteriaOf EsRequestInput.criteria
  split
  · rfl
  next hName =>
      rw [EsRequestInput.field?_buildPitSearchBody]
      simp only [List.mem_cons, List.not_mem_nil, or_false, not_or] at hName
      rw [if_neg hName.2.2, if_neg hName.2.1, if_neg hName.1]

end DataConnectHub.Elasticsearch
