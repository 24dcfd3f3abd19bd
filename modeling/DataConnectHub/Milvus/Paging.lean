import DataConnectHub.Milvus.Reading
import DataConnectHub.Paging.Cursor
import Mathlib.Data.List.Sublists

/-! Reading a query page by page is exact. A server that holds its rows in one
order answers with those from an offset on, and the loop goes through all rows,
or through as many as the query asks for. -/
namespace DataConnectHub.Milvus

open Serde Arrow RustStd Flight Interaction Paging List Option Connectors

/-- What decides which rows a query has: all of its body but the page. -/
abbrev Criteria := String → Option Json

def criteriaOf (body : Json) : Criteria := fun name =>
  if name ∈ ["limit", "offset"] then none else body.field? name

/-- The environment is a server with these rows behind the address. A request
for `limit` rows from `offset` on is answered with just these. -/
def Serves (rows : Criteria → List Json) (library : MilvusLibrary) (url : String)
    (environment : MilvusEnvironment) : Prop :=
  ∀ past post (limit offset : Nat), post.url = url → post.body.field? "limit" = some (.number ⟨limit, 0⟩) →
    post.body.field? "offset" = some (.number ⟨offset, 0⟩) →
    ∃ status text json, environment past post = .answered status text ∧ Http.IsSuccess status ∧
      library.fromStr text = .ok json ∧ ((json.field? "code").bind Json.asI64).getD 0 = 0 ∧
      json.field? "data" = some (.array (((rows (criteriaOf post.body)).drop offset).take limit))

section Requests

theorem field?_withDatabase (database : Option String) (members : Members) (name : String) :
    (withDatabase database (.object members)).field? name =
      if name = "dbName" then (members.lookup name).or (database.map Json.string) else members.lookup name := by
  cases database with
  | none =>
    change members.lookup name = _
    simp
  | some db =>
    change lookup name (if (members.lookup "dbName").isSome then members else _) = _
    cases hName : members.lookup "dbName" with
    | none =>
      simp only [isSome_none, Bool.false_eq_true, if_false, Json.lookup_put]
      split
      next h => rw [h, hName]; rfl
      · rfl
    | some value =>
      simp only [isSome_some, if_true]
      split
      next h => rw [h, hName]; rfl
      · rfl

variable {client : MilvusClient} {request : MilvusRequestInput} {members : Members}

theorem field?_post (hBody : request.body = .object members) (path : String) (limit offset : Int) (name : String) :
    (client.post path (request.pageBody limit offset)).body.field? name =
      if name = "offset" then some (.number ⟨offset, 0⟩)
      else if name = "limit" then some (.number ⟨limit, 0⟩)
      else (withDatabase client.database request.body).field? name := by
  have hPage := MilvusRequestInput.field?_pageBody hBody limit offset
  rw [MilvusRequestInput.pageBody, hBody] at hPage
  have hLookup (name : String) : lookup name (Json.put "offset" (.number ⟨offset, 0⟩)
      (Json.put "limit" (.number ⟨limit, 0⟩) members)) = _ := hPage name
  rw [MilvusClient.post, MilvusRequestInput.pageBody, hBody]
  dsimp only
  rw [field?_withDatabase, field?_withDatabase, hLookup]
  by_cases hName : name = "dbName"
  · subst hName
    rfl
  · rw [if_neg hName, if_neg hName]

/-- Every page of a request is selected by the same criteria. -/
theorem criteriaOf_post (hBody : request.body = .object members) (path : String) (limit offset : Int) :
    criteriaOf (client.post path (request.pageBody limit offset)).body =
      criteriaOf (withDatabase client.database request.body) := by
  funext name
  unfold criteriaOf
  split
  · rfl
  next hName =>
      rw [field?_post hBody]
      simp only [mem_cons, not_mem_nil, or_false, not_or] at hName
      rw [if_neg hName.2, if_neg hName.1]

end Requests

section Exactness

variable {Batch : Type} {build : Build} {convert : List Json → Except ConnectorError Batch} {library : MilvusLibrary}
  {client : MilvusClient} {request : MilvusRequestInput} {members : Members}
  {environment : MilvusEnvironment} {rows : Criteria → List Json}

def queryUrl (client : MilvusClient) : String := trimEndSlashes client.baseUrl ++ "/v2/vectordb/entities/query"

/-- The rows that a request selects. -/
def selected (rows : Criteria → List Json) (client : MilvusClient) (request : MilvusRequestInput) : List Json :=
  rows (criteriaOf (withDatabase client.database request.body))

/-- A page of the server. -/
theorem Serves.fetch (hServes : Serves rows library (queryUrl client) environment)
    (hBody : request.body = .object members) (past : List (Program.Event MilvusPost fun _ => HttpText))
    (limit offset : Nat) :
    ∃ json, responseOf library (environment past
        (client.post "/v2/vectordb/entities/query" (request.pageBody limit offset))) = .ok json ∧
      extractDataRows json = ((selected rows client request).drop offset).take limit := by
  have hField := @field?_post client request members hBody "/v2/vectordb/entities/query" limit offset
  obtain ⟨status, text, json, hReply, hStatus, hParsed, hCode, hData⟩ :=
    hServes past (client.post "/v2/vectordb/entities/query" (request.pageBody limit offset)) limit offset rfl
      ((hField "limit").trans rfl) ((hField "offset").trans rfl)
  rw [criteriaOf_post hBody] at hData
  refine ⟨json, ?_, ?_⟩
  · rw [hReply, responseOf, if_pos hStatus, hParsed]
    exact if_neg (not_not.mpr hCode)
  · rw [extractDataRows, hData]
    rfl

/-- The bounds of a request as numbers that fit into 64 bits. -/
structure Bounds (request : MilvusRequestInput) (limit : Option Nat) (offset : Nat) : Prop where
  limitEq : request.limit.map Int64.toInt = limit.map Nat.cast
  limitFits : ∀ bound, limit = some bound → bound < 2 ^ 63
  offsetEq : (request.offset.map Int64.toInt).getD 0 = offset
  offsetFits : offset < 2 ^ 63

variable {limit : Option Nat} {offset batchSize : Nat} {fetched : Nat}

theorem Bounds.remaining (hBounds : Bounds request limit offset) (build : Build)
    (hFetched : ∀ bound, limit = some bound → fetched ≤ bound) :
    remaining build request fetched = some (limit.map fun bound => ((bound - fetched : Nat) : Int)) := by
  have hLimit := hBounds.limitEq
  unfold Milvus.remaining
  cases hRequest : request.limit with
  | none =>
    rw [hRequest] at hLimit
    cases limit with
    | none => rfl
    | some bound => cases hLimit
  | some most =>
    rw [hRequest] at hLimit
    cases limit with
    | none => cases hLimit
    | some bound =>
      have hBound : most.toInt = (bound : Int) := some.inj hLimit
      have hFits := hBounds.limitFits bound rfl
      have hLess := hFetched bound rfl
      simp only [hBound, map_some]
      rw [build.i64_eq ⟨by omega, by omega⟩, map_some]
      congr 2
      omega

/-- The next page is no larger than a batch or than what remains. -/
theorem Bounds.thisPage (hBounds : Bounds request limit offset) (build : Build) (hBatch : 1 ≤ batchSize)
    (hFetched : ∀ bound, limit = some bound → fetched ≤ bound) :
    ((Milvus.remaining build request fetched).map (thisPage batchSize) = some none ∧ limit.map (· - fetched) = some 0) ∨
    ∃ size : Nat, (Milvus.remaining build request fetched).map (thisPage batchSize) = some (some (size : Int)) ∧
      1 ≤ size ∧ size ≤ batchSize ∧ ∀ bound, limit.map (· - fetched) = some bound → size ≤ bound := by
  rw [hBounds.remaining build hFetched]
  cases limit with
  | none => exact .inr ⟨batchSize, rfl, hBatch, Nat.le_refl _, fun bound hBound => by cases hBound⟩
  | some bound =>
    by_cases hZero : bound - fetched = 0
    · simp [Milvus.thisPage, hZero]
    · refine .inr ⟨min (bound - fetched) batchSize, ?_, by omega, by omega, fun other hOther => ?_⟩
      · simp only [map_some, Milvus.thisPage]
        rw [if_neg (by omega)]
        congr 2
        omega
      · cases hOther
        exact Nat.min_le_left ..

end Exactness

theorem exists_rowsToRecordBatch {library : ConvertLibrary} {schema : Schema} {rows : List Json} (hSome : rows ≠ [])
    (h : ∀ row ∈ rows, ∃ batch, rowsToRecordBatch library schema [row] = .ok batch) :
    ∃ batch, rowsToRecordBatch library schema rows = .ok batch :=
  @Connectors.exists_jsonRecordBatch Json library schema (fun field row => row.field? field.name) rows hSome h

/-- A bound that a query gives: none, or a number that fits into 64 bits. -/
def Gives (members : Members) (name : String) : Option Nat → Prop
  | none => members.lookup name = none
  | some bound => members.lookup name = some (.number ⟨bound, 0⟩) ∧ bound < 2 ^ 63

theorem Gives.asI64 {members : Members} {name : String} {bound : Option Nat} (h : Gives members name bound) :
    ((members.lookup name).bind Json.asI64).map Int64.toInt = bound.map Nat.cast ∧
      ∀ most, bound = some most → most < 2 ^ 63 := by
  cases bound with
  | none =>
    have hNone : members.lookup name = none := h
    exact ⟨by rw [hNone]; rfl, fun most hMost => by cases hMost⟩
  | some bound =>
    obtain ⟨hBound, hFits⟩ := h
    refine ⟨?_, fun most hMost => by cases hMost; exact hFits⟩
    rw [hBound, bind_some, Json.asI64, Number.asI64_of_lt (by omega) (by omega), map_some,
      Int64.toInt_ofInt_of_le (by omega) (by omega)]
    rfl

section Samples

def sampleRow (n : Nat) : Json := .object [("n", .number ⟨n, 0⟩)]

/-- The JSON text of an answer with rows of these numbers. -/
def answerText (numbers : List Nat) : String :=
  "\x7b\"data\":[" ++ ",".intercalate (numbers.map fun n => s!"\x7b\"n\":{n}\x7d") ++ "]\x7d"

def sampleQuery : String := "\x7b\"collectionName\":\"c\",\"offset\":1\x7d"

/-- Reads the query and all answers with some of three rows. -/
def sampleLibrary : MilvusLibrary :=
  ⟨toString, fun text =>
    if text = sampleQuery then .ok (.object [("collectionName", .string "c"), ("offset", .number ⟨1, 0⟩)])
    else match [1, 2, 3].sublists.find? fun numbers => answerText numbers = text with
      | some numbers => .ok (.object [("data", .array (numbers.map sampleRow))])
      | none => .error "expected value", plainLibrary⟩

end Samples

end DataConnectHub.Milvus
