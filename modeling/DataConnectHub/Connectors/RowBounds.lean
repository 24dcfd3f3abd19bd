import DataConnectHub.Elasticsearch.Paging
import DataConnectHub.Milvus.Paging

/-! Bounds on the number of rows. A query of the Elasticsearch connector may have
a size and one of the Milvus connector a limit, as any JSON number. Each page
overwrites the number with the size of the page, so what was read of it at the
beginning is all that keeps the bound. -/
namespace DataConnectHub.Connectors

open Serde Arrow Flight RustStd

def rowTotal (batches : List Arrow.RecordBatch) : Nat := (batches.map Arrow.Table.rowCount).sum

@[simp] theorem rowTotal_append (first second : List Arrow.RecordBatch) :
    rowTotal (first ++ second) = rowTotal first + rowTotal second := by
  simp [rowTotal]

@[simp] theorem rowTotal_singleton (batch : Arrow.RecordBatch) : rowTotal [batch] = batch.rowCount := by
  simp [rowTotal]

@[simp] theorem rowTotal_replicate (count : Nat) (batch : Arrow.RecordBatch) :
    rowTotal (List.replicate count batch) = count * batch.rowCount := by
  simp [rowTotal]

/-- A count is at most the value of a decimal. -/
def AtMost (count : Nat) (bound : Number) : Prop := (count : Int) * 10 ^ bound.scale ≤ bound.mantissa

instance decidableAtMost (count : Nat) (bound : Number) : Decidable (AtMost count bound) :=
  inferInstanceAs (Decidable (_ ≤ _))

theorem atMost_integer {count : Nat} {bound : Number} (hScale : bound.scale = 0) (h : (count : Int) ≤ bound.mantissa) :
    AtMost count bound := by
  rw [AtMost, hScale]
  omega

theorem not_atMost (bound : Number) : ¬AtMost (bound.mantissa.toNat + 1) bound := by
  intro h
  have hPower : (1 : Int) ≤ 10 ^ bound.scale := one_le_pow₀ (by decide)
  have hCount : (bound.mantissa.toNat + 1 : Nat) * (1 : Int) ≤ (bound.mantissa.toNat + 1 : Nat) * 10 ^ bound.scale :=
    mul_le_mul_of_nonneg_left hPower (by omega)
  rw [AtMost] at h
  omega

/-- A reading keeps a bound: it ends in an error or has no more rows. -/
def Kept (bound : Number) (outcome : TryStream Arrow.RecordBatch ConnectorError Unit) : Prop :=
  ∀ yielded, outcome = some yielded → yielded.ended = .ok () → AtMost (rowTotal yielded.items) bound

section Steps

variable {State Event Batch Result : Type} {batch : Batch} {count : Nat}

/-- A loop that adds one batch in each step until its record has `count` entries
has added them all when it ends. -/
theorem exists_replicate_of_steps (loop : Nat → State → List Batch → List Event → Option Result)
    (finished : State → List Batch → Result)
    (hStep : ∀ fuel state batches past, ∃ next event, loop (fuel + 1) state batches past =
      if past.length < count then loop fuel next (batches ++ [batch]) (past ++ [event])
      else some (finished state batches))
    {left fuel : Nat} (state : State) (batches : List Batch) (past : List Event) (hPast : past.length + left = count)
    (hFuel : left < fuel) :
    ∃ last, loop fuel state batches past = some (finished last (batches ++ List.replicate left batch)) := by
  induction left generalizing fuel state batches past with
  | zero =>
    obtain ⟨fuel, rfl⟩ := Nat.exists_eq_succ_of_ne_zero (Nat.ne_of_gt hFuel)
    obtain ⟨next, event, hRun⟩ := hStep fuel state batches past
    rw [if_neg (by omega)] at hRun
    exact ⟨state, by rw [hRun, List.replicate_zero, List.append_nil]⟩
  | succ left ih =>
    obtain ⟨fuel, rfl⟩ := Nat.exists_eq_succ_of_ne_zero (Nat.ne_of_gt (Nat.zero_lt_of_lt hFuel))
    obtain ⟨next, event, hRun⟩ := hStep fuel state batches past
    rw [if_pos (by omega)] at hRun
    have hLength : (past ++ [event]).length + left = count := by
      rw [List.length_append, List.length_singleton]
      omega
    obtain ⟨last, hRest⟩ := ih next (batches ++ [batch]) (past ++ [event]) hLength (Nat.lt_of_succ_lt_succ hFuel)
    refine ⟨last, ?_⟩
    rw [hRun, hRest, List.append_assoc, List.singleton_append, List.replicate_succ]

end Steps

section Servers

variable {Call Event : Type} {Reply : Call → Type}

/-- A server that never has more rows in an answer than it was asked for. -/
def Obeys (asked : Call → Option Json) (rowsOf : (call : Call) → Reply call → Option (List Json))
    (environment : Interaction.Program.Environment Call Reply) : Prop :=
  ∀ past call (limit : Int) rows, asked call = some (.number ⟨limit, 0⟩) →
    rowsOf call (environment past call) = some rows → rows.length ≤ limit.toNat

/-- The rows of a server with `count` of them left, one at a time. -/
def drip {Row : Type} (row : Row) (count : Nat) (past : List Event) (asked : Option Json) : List Row :=
  if past.length < count then [row].take (numberOf asked) else []

theorem length_drip_le {Row : Type} (row : Row) (count : Nat) (past : List Event) {asked : Option Json} {limit : Int}
    (hAsked : asked = some (.number ⟨limit, 0⟩)) : (drip row count past asked).length ≤ limit.toNat := by
  rw [hAsked, drip]
  split
  · exact List.length_take_le ..
  · exact Nat.zero_le _

end Servers

end DataConnectHub.Connectors

namespace DataConnectHub.Elasticsearch

open Serde Arrow Flight RustStd Interaction Connectors

/-- The size of the page that a call asks for. -/
def sizeAsked : EsCall → Option Json
  | .search body => body.field? "size"
  | _ => none

def hitsIn (statusText : Nat → String) : (call : EsCall) → call.Reply → Option (List Json)
  | .search _, reply => (fetchSearchPage statusText reply).toOption.bind hitsOf
  | _, _ => none

section Bounded

variable {statusText : Nat → String} {convert : List Json → Except ConnectorError Arrow.RecordBatch}
  {request : EsRequestInput} {batchSize : Nat} {environment : EsEnvironment}

theorem rowCount_of_hitsToRecordBatch {library : ConvertLibrary} {schema : Schema} {hits : List Json}
    {batch : Arrow.RecordBatch} (h : hitsToRecordBatch library schema hits = .ok batch) :
    batch.rowCount = hits.length :=
  @rowCount_of_jsonRecordBatch Json library schema (fun field => hitValue field.name) hits batch h

/-- Every batch of an answer has the rows of its hits, and the count grows by these. -/
theorem turn_counts (hConvert : ∀ hits batch, convert hits = .ok batch → batch.rowCount = hits.length) {size : Nat}
    (cursor : Cursor) {reply : HttpReply}
    (hHits : ∀ json hits, fetchSearchPage statusText reply = .ok json → hitsOf json = some hits → hits.length ≤ size) :
    (∃ batch pitId error, turn statusText convert size cursor reply = .stop batch pitId error ∧
      rowTotal batch.toList ≤ size) ∨
    ∃ batch next, turn statusText convert size cursor reply = .next batch next ∧ batch.rowCount ≤ size ∧
      next.totalFetched = (cursor.totalFetched + batch.rowCount) % 2 ^ 64 := by
  unfold turn
  cases hFetch : fetchSearchPage statusText reply with
  | error e => exact .inl ⟨none, _, _, rfl, Nat.zero_le _⟩
  | ok json =>
    dsimp only
    rcases hFound : hitsOf json with _ | _ | ⟨hit, hits⟩
    · exact .inl ⟨none, _, _, rfl, Nat.zero_le _⟩
    · exact .inl ⟨none, _, _, rfl, Nat.zero_le _⟩
    · have hSize := hHits json _ hFetch hFound
      dsimp only
      unfold hitsTurn
      cases hBatch : convert (hit :: hits) with
      | error e => exact .inl ⟨none, _, _, rfl, Nat.zero_le _⟩
      | ok batch =>
        have hRows := hConvert _ _ hBatch
        have hOne : rowTotal (some batch).toList ≤ size := by
          rw [Option.toList_some, rowTotal_singleton, hRows]
          exact hSize
        dsimp only
        split
        · exact .inl ⟨some batch, _, _, rfl, hOne⟩
        · split
          · exact .inl ⟨some batch, _, _, rfl, hOne⟩
          · exact .inr ⟨batch, _, rfl, hRows ▸ hSize, by rw [hRows]⟩

variable {limit : UInt64}

section

variable (hObeys : Obeys sizeAsked (hitsIn statusText) environment)
  (hConvert : ∀ hits batch, convert hits = .ok batch → batch.rowCount = hits.length)
  (hLimit : request.size = some limit)

include hObeys hConvert hLimit

/-- The loop never has more rows than the limit: what is asked for is at most what remains. -/
theorem readPages_bounded {fuel : Nat} {cursor : Cursor} {batches : List Arrow.RecordBatch} {past : List EsEvent}
    (hRows : rowTotal batches ≤ cursor.totalFetched) (hTotal : cursor.totalFetched ≤ limit.toNat)
    {ended : LoopEnd Arrow.RecordBatch}
    (h : ((readPages statusText convert request batchSize fuel cursor batches).run environment past).1 = some ended) :
    rowTotal ended.batches ≤ limit.toNat := by
  induction fuel generalizing cursor batches past with
  | zero =>
    unfold readPages at h
    split at h
    · cases h
      exact hRows.trans hTotal
    · cases h
  | succ fuel ih =>
    unfold readPages at h
    split at h
    · cases h
      exact hRows.trans hTotal
    · have hSize : pageSize request batchSize cursor ≤ limit.toNat - cursor.totalFetched := by
        simp only [pageSize, remaining, hLimit, Option.map_some]
        exact Nat.min_le_left ..
      generalize pageSize request batchSize cursor = size at hSize h
      have hReply : ∀ json hits, fetchSearchPage statusText (environment past (.search
          (request.buildPitSearchBody cursor.pitId size cursor.searchAfter))) = .ok json → hitsOf json = some hits →
            hits.length ≤ size := fun json hits hFetch hHits =>
        hObeys past (.search _) size hits
          ((request.field?_buildPitSearchBody cursor.pitId size cursor.searchAfter "size").trans rfl)
          (by simp only [hitsIn, hFetch]; exact hHits)
      have hRange := limit.toNat_lt
      rw [Program.run] at h
      rcases turn_counts hConvert cursor hReply with ⟨batch, pitId, error, hTurn, hOne⟩ | ⟨batch, next, hTurn, hOne, hNext⟩
      · simp only [hTurn] at h
        cases h
        rw [rowTotal_append]
        omega
      · simp only [hTurn] at h
        rw [Nat.mod_eq_of_lt (by omega)] at hNext
        refine ih ?_ ?_ h
        · rw [rowTotal_append, rowTotal_singleton]
          omega
        · omega

/-- A reading with a size that was understood keeps it. -/
theorem kept_of_size {bound : Number} (hScale : bound.scale = 0) (hBound : bound.mantissa = limit.toNat) (fuel : Nat)
    (index : String) :
    Kept bound ((stream statusText convert request batchSize fuel index).run environment []).1 := by
  intro yielded hRun hEnded
  rw [stream, Program.run] at hRun
  cases hOpened : openedPit (environment [] (.openPit index)) with
  | error e =>
    simp only [hOpened] at hRun
    cases hRun
    cases hEnded
  | ok pitId =>
    simp only [hOpened] at hRun
    rw [Program.run_bind] at hRun
    cases hLoop : ((readPages statusText convert request batchSize fuel ⟨none, pitId, 0⟩ []).run environment
        ([] ++ [⟨.openPit index, environment [] (.openPit index)⟩])).1 with
    | none =>
      rw [hLoop] at hRun
      cases hRun
    | some ended =>
      rw [hLoop] at hRun
      cases hRun
      have hRows := readPages_bounded hObeys hConvert hLimit (Nat.zero_le _) (Nat.zero_le _) hLoop
      have hItems : (rowTotal ended.batches : Int) ≤ bound.mantissa := by omega
      exact atMost_integer hScale hItems

end

end Bounded

section Unbounded

/-- A server with `count` hits left for searches; the first call opens a point in time. -/
def dripServer (count : Nat) : EsEnvironment
  | _, .openPit _ => HttpReply.answered 200 (.object [("id", .string "p")])
  | past, .search body => HttpReply.answered 200 (.object [("hits", .object [("hits",
      .array (drip (sampleHit 1) (count + 1) past (body.field? "size")))])])
  | _, .closePit _ => Except.ok ()

theorem dripServer_obeys (statusText : Nat → String) (count : Nat) :
    Obeys sizeAsked (hitsIn statusText) (dripServer count) := by
  intro past call limit hits hSize hHits
  cases call with
  | search body =>
    cases hHits
    exact length_drip_le (sampleHit 1) _ past hSize
  | openPit _ | closePit _ => cases hSize

variable {convert : List Json → Except ConnectorError Arrow.RecordBatch} {request : EsRequestInput}
  {batch : Arrow.RecordBatch} {count : Nat}

theorem turn_drip {cursor : Cursor} {past : List EsEvent} (hBatch : convert [sampleHit 1] = .ok batch) :
    turn toString convert 1 cursor (dripServer count past (.search (request.buildPitSearchBody cursor.pitId 1 cursor.searchAfter)))
      = if past.length < count + 1 then
          .next batch ⟨sortOf (sampleHit 1), cursor.pitId, (cursor.totalFetched + 1) % 2 ^ 64⟩
        else .stop none cursor.pitId none := by
  have hSize : (request.buildPitSearchBody cursor.pitId 1 cursor.searchAfter).field? "size" = some (.number ⟨1, 0⟩) :=
    (request.field?_buildPitSearchBody cursor.pitId 1 cursor.searchAfter "size").trans rfl
  simp only [dripServer, drip, hSize]
  split
  · have hHit : hitsTurn convert 1 cursor.totalFetched cursor.pitId [sampleHit 1] =
        .next batch ⟨sortOf (sampleHit 1), cursor.pitId, (cursor.totalFetched + 1) % 2 ^ 64⟩ := by
      rw [hitsTurn, hBatch]
      rfl
    exact hHit
  · rfl

/-- One search without a size. -/
theorem run_readPages_drip (hNone : request.size = none) (hBatch : convert [sampleHit 1] = .ok batch)
    (count fuel : Nat) (cursor : Cursor) (batches : List Arrow.RecordBatch) (past : List EsEvent) :
    ∃ next event, ((readPages toString convert request 1 (fuel + 1) cursor batches).run (dripServer count) past).1 =
      if past.length < count + 1 then
        ((readPages toString convert request 1 fuel next (batches ++ [batch])).run (dripServer count) (past ++ [event])).1
      else some ⟨batches, cursor.pitId, none⟩ := by
  have hRemaining : remaining request cursor = none := by
    rw [remaining, hNone]
    rfl
  have hPage : pageSize request 1 cursor = 1 := by rw [pageSize, hRemaining]
  have hTurn := @turn_drip convert request batch count cursor past hBatch
  rw [readPages, if_neg (by simp [hRemaining]), Program.run]
  generalize pageSize request 1 cursor = size at hPage ⊢
  subst hPage
  refine ⟨⟨sortOf (sampleHit 1), cursor.pitId, (cursor.totalFetched + 1) % 2 ^ 64⟩,
    ⟨.search (request.buildPitSearchBody cursor.pitId 1 cursor.searchAfter), dripServer count past
      (.search (request.buildPitSearchBody cursor.pitId 1 cursor.searchAfter))⟩, ?_⟩
  by_cases hLeft : past.length < count + 1
  · simp only [hTurn, if_pos hLeft]
  · simp only [hTurn, if_neg hLeft, Program.run, Option.toList_none, List.append_nil]

/-- Without a size the loop reads until there are no more hits. -/
theorem stream_drip (hNone : request.size = none) (hBatch : convert [sampleHit 1] = .ok batch) {fuel : Nat}
    (hFuel : count < fuel) (index : String) :
    ((stream toString convert request 1 fuel index).run (dripServer count) []).1 =
      some ⟨List.replicate count batch, .ok ()⟩ := by
  obtain ⟨last, hRun⟩ := exists_replicate_of_steps (fun fuel cursor batches past =>
      ((readPages toString convert request 1 fuel cursor batches).run (dripServer count) past).1)
    (fun cursor batches => ⟨batches, cursor.pitId, none⟩) (run_readPages_drip hNone hBatch count) ⟨none, "p", 0⟩ []
    [⟨.openPit index, dripServer count [] (.openPit index)⟩] (Nat.add_comm ..) hFuel
  have hOpened : openedPit (dripServer count [] (.openPit index)) = .ok "p" := rfl
  rw [stream, Program.run]
  simp only [hOpened]
  rw [Program.run_bind, List.nil_append, hRun]
  rfl

end Unbounded

/-- The size is kept in every reading of a query. -/
def SizeKept (members : Members) (bound : Number) : Prop :=
  ∀ (reader : ElasticsearchReader) (query : String) (schema : Schema) (batchSize fuel : Nat)
    (environment : EsEnvironment) (program : Program EsCall EsCall.Reply (TryStream Arrow.RecordBatch ConnectorError Unit)),
    reader.fromStr query = .ok (.object members) → Obeys sizeAsked (hitsIn reader.statusText) environment →
    reader.readTabular fuel query schema batchSize = .ok program → Kept bound (program.run environment []).1

variable {members : Members} {bound : Number}

theorem sizeKept_of_fits (hSize : members.lookup "size" = some (.number bound)) (hPositive : 0 ≤ bound.mantissa)
    (hScale : bound.scale = 0) (hFits : bound.mantissa < 2 ^ 64) : SizeKept members bound := by
  intro reader query schema batchSize fuel environment program hQuery hObeys hRead
  obtain ⟨request, hRequest, hProgram⟩ := bind_eq_ok.mp hRead
  obtain ⟨index, -, hProgram⟩ := bind_eq_ok.mp hProgram
  cases hProgram
  have hLimit : request.size = some (.ofNat bound.mantissa.toNat) := by
    rw [(EsRequestInput.of_parse hQuery hRequest).1, hSize]
    exact if_pos ⟨hScale, hPositive, hFits⟩
  have hBound : bound.mantissa = (UInt64.ofNat bound.mantissa.toNat).toNat := by
    rw [UInt64.toNat_ofNat_of_lt' (by omega : bound.mantissa.toNat < 2 ^ 64)]
    omega
  exact kept_of_size hObeys (fun _ _ => rowCount_of_hitsToRecordBatch) hLimit hScale hBound fuel index

theorem not_sizeKept {request : EsRequestInput} (hSize : members.lookup "size" = some (.number bound))
    (hAccepted : EsRequestInput.ofMembers members = .ok request)
    (hUnfit : ¬(bound.scale = 0 ∧ bound.mantissa < 2 ^ 64)) : ¬SizeKept members bound := by
  intro hKept
  let reader : ElasticsearchReader := ⟨some "i", fun _ => .ok (.object members), toString, plainLibrary⟩
  have hRequest : EsRequestInput.parse reader.fromStr "" = .ok request := hAccepted
  have hNone : request.size = none := by
    rw [(EsRequestInput.of_parse rfl hRequest).1, hSize]
    exact if_neg fun hFits => hUnfit ⟨hFits.1, hFits.2.2⟩
  obtain ⟨index, hIndex⟩ : ∃ index, request.resolveIndex (some "i") = .ok index := by
    unfold EsRequestInput.resolveIndex
    cases request.index with
    | none => exact ⟨"i", rfl⟩
    | some index => exact ⟨index, rfl⟩
  obtain ⟨batch, hBatch⟩ : ∃ batch, hitsToRecordBatch plainLibrary ⟨[⟨"n", .int64, true⟩]⟩ [sampleHit 1] = .ok batch :=
    ⟨_, rfl⟩
  have hRead : reader.readTabular (bound.mantissa.toNat + 2) "" ⟨[⟨"n", .int64, true⟩]⟩ 1 = .ok
      (stream toString (hitsToRecordBatch plainLibrary ⟨[⟨"n", .int64, true⟩]⟩) request 1 (bound.mantissa.toNat + 2)
        index) := by
    rw [ElasticsearchReader.readTabular, hRequest]
    change (request.resolveIndex (some "i") >>= _) = _
    rw [hIndex]
    rfl
  have hRun := stream_drip hNone hBatch (Nat.lt_succ_self (bound.mantissa.toNat + 1)) index
  have hCount := hKept reader "" _ 1 _ _ _ rfl (dripServer_obeys toString _) hRead _ hRun rfl
  rw [rowTotal_replicate, rowCount_of_hitsToRecordBatch hBatch, List.length_singleton, Nat.mul_one] at hCount
  exact not_atMost bound hCount

end DataConnectHub.Elasticsearch

namespace DataConnectHub.Milvus

open Serde Arrow Flight RustStd Interaction Connectors

/-- The limit of the page that a call asks for. -/
def limitAsked (post : MilvusPost) : Option Json := post.body.field? "limit"

def rowsIn (library : MilvusLibrary) (_ : MilvusPost) (reply : HttpText) : Option (List Json) :=
  (responseOf library reply).toOption.map extractDataRows

section Bounded

variable {build : Build} {convert : List Json → Except ConnectorError Arrow.RecordBatch} {library : MilvusLibrary}
  {client : MilvusClient} {request : MilvusRequestInput} {members : Members} {pageSize : Int}
  {environment : MilvusEnvironment}

theorem rowCount_of_rowsToRecordBatch {library : ConvertLibrary} {schema : Schema} {rows : List Json}
    {batch : Arrow.RecordBatch} (h : rowsToRecordBatch library schema rows = .ok batch) :
    batch.rowCount = rows.length :=
  @rowCount_of_jsonRecordBatch Json library schema (fun field row => row.field? field.name) rows batch h

/-- Every batch has the rows of its page, and the count grows by these. -/
theorem pageTurn_counts (hConvert : ∀ rows batch, convert rows = .ok batch → batch.rowCount = rows.length)
    {page fetched : Int} {rows : List Json} (hFits : InI64 (fetched + rows.length)) (hLength : InI64 rows.length) :
    (∃ batch error, pageTurn build convert page fetched rows = .stop batch error ∧ rowTotal batch.toList ≤ rows.length) ∨
    ∃ batch, pageTurn build convert page fetched rows = .next batch (fetched + rows.length) ∧
      batch.rowCount = rows.length := by
  unfold pageTurn
  by_cases hNone : rows = []
  · exact .inl ⟨none, none, if_pos hNone, Nat.zero_le _⟩
  · rw [if_neg hNone]
    cases hBatch : convert rows with
    | error e => exact .inl ⟨none, some e, rfl, Nat.zero_le _⟩
    | ok batch =>
      have hRows := hConvert _ _ hBatch
      simp only [wrapI64_eq hLength, build.i64_eq hFits]
      split
      · exact .inl ⟨some batch, none, rfl, by simp [hRows]⟩
      · exact .inr ⟨batch, rfl, hRows⟩

variable {limit : Int64} {fetched : Int}

/-- The next page is no larger than what remains of a limit. -/
theorem nextPage (hLimit : request.limit = some limit) (hFetched : 0 ≤ fetched) (hTotal : fetched ≤ limit.toInt) :
    (remaining build request fetched).map (thisPage pageSize) = some none ∨
    ∃ page, (remaining build request fetched).map (thisPage pageSize) = some (some page) ∧
      page.toNat ≤ limit.toInt - fetched := by
  have hRange := limit.toInt_lt
  simp only [remaining, hLimit]
  rw [build.i64_eq ⟨by omega, by omega⟩]
  simp only [Option.map_some, thisPage]
  split
  · exact .inl rfl
  · exact .inr ⟨_, rfl, by omega⟩

section

variable (hObeys : Obeys limitAsked (rowsIn library) environment) (hBody : request.body = .object members)
  (hConvert : ∀ rows batch, convert rows = .ok batch → batch.rowCount = rows.length)
  (hLimit : request.limit = some limit)

include hObeys hBody hConvert hLimit

/-- The loop never has more rows than the limit, since a page is at most what remains of it. -/
theorem readPages_bounded {fuel : Nat} {batches : List Arrow.RecordBatch}
    {past : List (Program.Event MilvusPost fun _ => HttpText)} (hRows : (rowTotal batches : Int) = fetched)
    (hTotal : fetched ≤ limit.toInt) {yielded : Yielded Arrow.RecordBatch ConnectorError Unit}
    (h : ((readPages build convert library client request pageSize fuel fetched batches).run environment past).1 =
      some yielded) :
    (rowTotal yielded.items : Int) ≤ limit.toInt := by
  have hRange := limit.toInt_lt
  induction fuel generalizing fetched batches past with
  | zero =>
    rcases nextPage hLimit (by omega) hTotal with hStop | ⟨page, hPage, -⟩
    · rw [readPages_stop hStop] at h
      cases h
      exact hRows.trans_le hTotal
    · unfold readPages at h
      simp only [hPage] at h
      cases h
  | succ fuel ih =>
    rcases nextPage hLimit (by omega) hTotal with hStop | ⟨page, hPage, hLess⟩
    · rw [readPages_stop hStop] at h
      cases h
      exact hRows.trans_le hTotal
    · cases hOffset : build.i64 ((request.offset.map Int64.toInt).getD 0 + fetched) with
      | none =>
        unfold readPages at h
        simp only [hPage, hOffset] at h
        cases h
      | some offset =>
        rw [run_readPages hPage hOffset] at h
        have hField := @field?_post client request members hBody "/v2/vectordb/entities/query" page offset "limit"
        cases hResponse : responseOf library (environment past
            (client.post "/v2/vectordb/entities/query" (request.pageBody page offset))) with
        | error e =>
          rw [hResponse] at h
          cases h
          exact hRows.trans_le hTotal
        | ok json =>
          have hCount := hObeys past _ page (extractDataRows json) (hField.trans rfl) (by rw [rowsIn, hResponse]; rfl)
          rw [hResponse, afterResponse] at h
          rcases @pageTurn_counts build convert hConvert page fetched (extractDataRows json)
            ⟨by omega, by omega⟩ ⟨by omega, by omega⟩ with ⟨batch, error, hTurn, hOne⟩ | ⟨batch, hTurn, hOne⟩
          · rw [hTurn, afterTurn] at h
            have hItems : yielded.items = batches ++ batch.toList := by
              cases error <;> cases h <;> rfl
            rw [hItems, rowTotal_append]
            omega
          · rw [hTurn, afterTurn] at h
            refine ih ?_ (by omega) h
            rw [rowTotal_append, rowTotal_singleton, hOne]
            omega

/-- A reading with a limit that was understood keeps it. -/
theorem kept_of_limit {bound : Number} (hScale : bound.scale = 0) (hPositive : 0 ≤ bound.mantissa)
    (hBound : bound.mantissa = limit.toInt) (fuel : Nat) :
    Kept bound ((readPages build convert library client request pageSize fuel 0 []).run environment []).1 := by
  intro yielded hRun _
  have hTotal : 0 ≤ limit.toInt := hBound ▸ hPositive
  have hRows := readPages_bounded hObeys hBody hConvert hLimit (rfl : (rowTotal [] : Int) = 0) hTotal hRun
  exact atMost_integer hScale (by omega)

end

end Bounded

section Unbounded

def sampleBatchSchema : Schema := ⟨[⟨"n", .int64, true⟩]⟩

/-- Reads the answers with one row and with none, and all other texts as the query. -/
def dripLibrary (members : Members) : MilvusLibrary :=
  ⟨toString, fun text =>
    if text = answerText [1] then .ok (.object [("data", .array [sampleRow 1])])
    else if text = answerText [] then .ok (.object [("data", .array [])])
    else .ok (.object members), plainLibrary⟩

/-- A server with `count` rows left. -/
def dripServer (count : Nat) : MilvusEnvironment := fun past post =>
  .answered 200 (answerText (drip 1 count past (limitAsked post)))

theorem rowsIn_dripServer (members : Members) (count : Nat) (past : List _) (post : MilvusPost) :
    rowsIn (dripLibrary members) post (dripServer count past post) =
      some ((drip 1 count past (limitAsked post)).map sampleRow) := by
  have hDrip : drip 1 count past (limitAsked post) = [1] ∨ drip 1 count past (limitAsked post) = [] := by
    rw [drip]
    split
    · cases numberOf (limitAsked post) with
      | zero => exact .inr rfl
      | succ n => exact .inl (by rw [List.take_succ_cons, List.take_nil])
    · exact .inr rfl
  rcases hDrip with h | h
  · rw [dripServer, h]
    rfl
  · rw [dripServer, h]
    rfl

theorem dripServer_obeys (members : Members) (count : Nat) :
    Obeys limitAsked (rowsIn (dripLibrary members)) (dripServer count) := by
  intro past post limit rows hLimit hRows
  cases (rowsIn_dripServer members count past post).symm.trans hRows
  rw [List.length_map]
  exact length_drip_le 1 count past hLimit

variable {convert : List Json → Except ConnectorError Arrow.RecordBatch} {client : MilvusClient}
  {request : MilvusRequestInput} {members : Members} {batch : Arrow.RecordBatch}

/-- One request for a row without a limit, in a release build. -/
theorem run_readPages_drip (hBody : request.body = .object members) (hNone : request.limit = none)
    (hBatch : convert [sampleRow 1] = .ok batch) (count fuel : Nat) (fetched : Int) (batches : List Arrow.RecordBatch)
    (past : List (Program.Event MilvusPost fun _ => HttpText)) :
    ∃ next event, ((readPages .release convert (dripLibrary members) client request 1 (fuel + 1) fetched batches).run
      (dripServer count) past).1 = if past.length < count then
          ((readPages .release convert (dripLibrary members) client request 1 fuel next (batches ++ [batch])).run
            (dripServer count) (past ++ [event])).1
        else some ⟨batches, .ok ()⟩ := by
  have hPage : (remaining .release request fetched).map (thisPage 1) = some (some 1) := by
    simp only [remaining, hNone]
    rfl
  obtain ⟨offset, hOffset⟩ : ∃ offset, Build.release.i64 ((request.offset.map Int64.toInt).getD 0 + fetched) = some offset :=
    ⟨_, rfl⟩
  have hAsked : limitAsked (client.post "/v2/vectordb/entities/query" (request.pageBody 1 offset)) =
      some (.number ⟨1, 0⟩) := (field?_post hBody _ 1 offset "limit").trans rfl
  rw [run_readPages hPage hOffset]
  refine ⟨wrapI64 (fetched + 1), ⟨client.post "/v2/vectordb/entities/query" (request.pageBody 1 offset),
    dripServer count past (client.post "/v2/vectordb/entities/query" (request.pageBody 1 offset))⟩, ?_⟩
  by_cases hLeft : past.length < count
  · have hReply : dripServer count past (client.post "/v2/vectordb/entities/query" (request.pageBody 1 offset)) =
        .answered 200 (answerText [1]) := by
      rw [dripServer, hAsked, drip, if_pos hLeft]
      rfl
    have hTurn : pageTurn .release convert 1 fetched [sampleRow 1] = .next batch (wrapI64 (fetched + 1)) := by
      simp only [pageTurn, hBatch]
      rfl
    rw [if_pos hLeft, hReply]
    change ((afterTurn _ batches (pageTurn .release convert 1 fetched [sampleRow 1])).run _ _).1 = _
    rw [hTurn]
    rfl
  · have hReply : dripServer count past (client.post "/v2/vectordb/entities/query" (request.pageBody 1 offset)) =
        .answered 200 (answerText []) := by
      rw [dripServer, drip, if_neg hLeft]
    rw [if_neg hLeft, hReply]
    change some (Yielded.mk (batches ++ []) _) = _
    rw [List.append_nil]

/-- Without a limit the loop reads until there are no more rows. -/
theorem readPages_drip (hBody : request.body = .object members) (hNone : request.limit = none)
    (hBatch : convert [sampleRow 1] = .ok batch) {count fuel : Nat} (hFuel : count < fuel) :
    ((readPages .release convert (dripLibrary members) client request 1 fuel 0 []).run (dripServer count) []).1 =
      some ⟨List.replicate count batch, .ok ()⟩ := by
  obtain ⟨last, hRun⟩ := exists_replicate_of_steps (fun fuel fetched batches past =>
      ((readPages .release convert (dripLibrary members) client request 1 fuel fetched batches).run (dripServer count) past).1)
    (fun _ batches => ⟨batches, .ok ()⟩) (run_readPages_drip hBody hNone hBatch count) 0 [] [] (Nat.zero_add _) hFuel
  exact hRun

end Unbounded

/-- The limit is kept in every reading of a query. -/
def LimitKept (members : Members) (bound : Number) : Prop :=
  ∀ (reader : MilvusReader) (build : Build) (query : String) (schema : Schema) (batchSize fuel : Nat)
    (environment : MilvusEnvironment) (stream : MilvusStream),
    reader.library.fromStr query = .ok (.object members) → Obeys limitAsked (rowsIn reader.library) environment →
    reader.readTabular build fuel query schema batchSize = .done (.ok stream) →
    Kept bound (stream.run environment []).1

theorem readTabular_query {reader : MilvusReader} {query : String} {request : MilvusRequestInput}
    (hRequest : MilvusRequestInput.parse reader.library.fromStr query = .ok request)
    (hOperation : request.operation = .query) (build : Build) (fuel : Nat) (schema : Schema) (batchSize : Nat) :
    reader.readTabular build fuel query schema batchSize =
      .done (.ok (reader.readQueryPaginated build fuel request schema batchSize)) := by
  rw [MilvusReader.readTabular, hRequest]
  simp only [hOperation]

variable {bound : Number}

section

variable {members : Members} {request : MilvusRequestInput}
  (hLimit : members.lookup "limit" = some (.number bound))
  (hAccepted : MilvusRequestInput.ofMembers members = .ok request) (hOperation : request.operation = .query)

include hLimit hAccepted hOperation

theorem limitKept_of_fits (hPositive : 0 ≤ bound.mantissa) (hScale : bound.scale = 0)
    (hFits : bound.mantissa < 2 ^ 63) :
    LimitKept members bound := by
  intro reader build query schema batchSize fuel environment stream hQuery hObeys hRead
  have hRequest : MilvusRequestInput.parse reader.library.fromStr query = .ok request := by
    rw [MilvusRequestInput.parse, hQuery]
    exact hAccepted
  obtain ⟨-, hMost, -, hBody⟩ := MilvusRequestInput.of_parse hQuery hRequest
  rw [readTabular_query hRequest hOperation] at hRead
  cases hRead
  have hSome : request.limit = some (.ofInt bound.mantissa) := by
    rw [hMost, hLimit]
    exact if_pos ⟨hScale, by omega, hFits⟩
  have hBound : bound.mantissa = (Int64.ofInt bound.mantissa).toInt :=
    (Int64.toInt_ofInt_of_le (by omega) hFits).symm
  exact kept_of_limit hObeys hBody (fun _ _ => rowCount_of_rowsToRecordBatch) hSome hScale hPositive hBound fuel

theorem not_limitKept (hUnfit : ¬(bound.scale = 0 ∧ bound.mantissa < 2 ^ 63)) : ¬LimitKept members bound := by
  intro hKept
  let reader : MilvusReader := ⟨⟨"", none, none⟩, dripLibrary members⟩
  have hRequest : MilvusRequestInput.parse reader.library.fromStr "" = .ok request := hAccepted
  obtain ⟨-, hMost, -, hBody⟩ := MilvusRequestInput.of_parse rfl hRequest
  have hNone : request.limit = none := by
    rw [hMost, hLimit]
    exact if_neg fun hFits => hUnfit ⟨hFits.1, hFits.2.2⟩
  obtain ⟨batch, hBatch⟩ : ∃ batch, rowsToRecordBatch plainLibrary sampleBatchSchema [sampleRow 1] = .ok batch := ⟨_, rfl⟩
  have hRun := @readPages_drip (rowsToRecordBatch plainLibrary sampleBatchSchema) reader.client request members batch
    hBody hNone hBatch (bound.mantissa.toNat + 1) (bound.mantissa.toNat + 2) (Nat.lt_succ_self _)
  have hCount := hKept reader .release "" sampleBatchSchema 1 (bound.mantissa.toNat + 2)
    (dripServer (bound.mantissa.toNat + 1)) _ rfl (dripServer_obeys members _) (readTabular_query hRequest hOperation _ _ _ _)
    _ hRun rfl
  rw [rowTotal_replicate, rowCount_of_rowsToRecordBatch hBatch, List.length_singleton, Nat.mul_one] at hCount
  exact not_atMost bound hCount

end

end DataConnectHub.Milvus

namespace DataConnectHub.Connectors

open Serde Flight RustStd Interaction

/-- A bound is kept in all readings of a query just if it is an integer of the
type that the connector reads it as. -/
theorem row_bounds_kept_iff (members : Members) (bound : Number) (hPositive : 0 ≤ bound.mantissa) :
    (∀ request : Elasticsearch.EsRequestInput, members.lookup "size" = some (.number bound) →
      Elasticsearch.EsRequestInput.ofMembers members = .ok request →
      (Elasticsearch.SizeKept members bound ↔ bound.scale = 0 ∧ bound.mantissa < 2 ^ 64)) ∧
    ∀ request : Milvus.MilvusRequestInput, members.lookup "limit" = some (.number bound) →
      Milvus.MilvusRequestInput.ofMembers members = .ok request → request.operation = .query →
      (Milvus.LimitKept members bound ↔ bound.scale = 0 ∧ bound.mantissa < 2 ^ 63) := by
  constructor
  · intro request hSize hAccepted
    refine ⟨fun hKept => ?_, fun ⟨hScale, hFits⟩ => Elasticsearch.sizeKept_of_fits hSize hPositive hScale hFits⟩
    by_contra hUnfit
    exact Elasticsearch.not_sizeKept hSize hAccepted hUnfit hKept
  · intro request hLimit hAccepted hOperation
    refine ⟨fun hKept => ?_, fun ⟨hScale, hFits⟩ =>
      Milvus.limitKept_of_fits hLimit hAccepted hOperation hPositive hScale hFits⟩
    by_contra hUnfit
    exact Milvus.not_limitKept hLimit hAccepted hOperation hUnfit hKept

theorem row_bounds_sample : Elasticsearch.SizeKept [("size", .number ⟨2, 0⟩)] ⟨2, 0⟩ ∧
      Milvus.LimitKept [("collectionName", .string "c"), ("limit", .number ⟨2, 0⟩)] ⟨2, 0⟩ :=
  ⟨((row_bounds_kept_iff _ ⟨2, 0⟩ (by decide)).1 _ rfl rfl).mpr ⟨rfl, by decide⟩,
    ((row_bounds_kept_iff _ ⟨2, 0⟩ (by decide)).2 _ rfl rfl rfl).mpr ⟨rfl, by decide⟩⟩

/-- A size of one and a half, and three rows. -/
theorem size_dropped : ∃ program batches,
    (⟨some "i", fun _ => .ok (.object [("size", .number ⟨15, 1⟩)]), toString, plainLibrary⟩ :
      Elasticsearch.ElasticsearchReader).readTabular 4 "\x7b\"size\":1.5\x7d" ⟨[⟨"n", .int64, true⟩]⟩ 1 = .ok program ∧
    Obeys Elasticsearch.sizeAsked (Elasticsearch.hitsIn toString) (Elasticsearch.dripServer 3) ∧
    (program.run (Elasticsearch.dripServer 3) []).1 = some ⟨batches, .ok ()⟩ ∧ rowTotal batches = 3 ∧
    ¬AtMost 3 ⟨15, 1⟩ := by
  obtain ⟨batch, hBatch⟩ : ∃ batch, Elasticsearch.hitsToRecordBatch plainLibrary ⟨[⟨"n", .int64, true⟩]⟩
      [Elasticsearch.sampleHit 1] = .ok batch := ⟨_, rfl⟩
  refine ⟨_, List.replicate 3 batch, rfl, Elasticsearch.dripServer_obeys toString 3, ?_, ?_, by decide⟩
  · exact Elasticsearch.stream_drip rfl hBatch (by decide) "i"
  · rw [rowTotal_replicate, Elasticsearch.rowCount_of_hitsToRecordBatch hBatch]
    rfl

section Columns

open Elasticsearch Milvus

/-- For every mapping and all hits, and for every description of a collection,
all `outputFields`, operations and rows: where the schema is not empty, what is
built fits it. -/
theorem built_columns_fit (library : ConvertLibrary) :
    (∀ mapping hits, (mappingFieldsToSchema (parseMapping mapping)).fields ≠ [] →
      FitsSchema library (mappingFieldsToSchema (parseMapping mapping)) hits.length
        (fun field => hits.map (hitValue field.name))
        (hitsToRecordBatch library (mappingFieldsToSchema (parseMapping mapping)) hits)) ∧
    ∀ descs outputFields operation (rows : List Json), (buildSchema descs outputFields operation).fields ≠ [] →
      FitsSchema library (buildSchema descs outputFields operation) rows.length
        (fun field => rows.map fun row => row.field? field.name)
        (rowsToRecordBatch library (buildSchema descs outputFields operation) rows) :=
  ⟨fun mapping _ hSome => fitsSchema_jsonRecordBatch (jsonSchema_mappingFieldsToSchema (parseMapping mapping)) hSome
    fun _ => List.length_map .., fun descs outputFields operation _ hSome =>
      fitsSchema_jsonRecordBatch (jsonSchema_buildSchema descs outputFields operation) hSome
        fun _ => List.length_map ..⟩

/-- Elasticsearch: a byte. -/
def byteSchema : Arrow.Schema := mappingFieldsToSchema (parseMapping (.object [("mappings", .object
  [("properties", .object [("score", .object [("type", .string "byte")])])])]))

/-- Milvus: a small integer of a collection that is asked for everything it has. -/
def smallSchema : Arrow.Schema := buildSchema [⟨"score", "Int8"⟩, ⟨"vector", "FloatVector"⟩] (some ["*"]) .search

/-- A score that fits neither: both connectors answer with the error of its column. -/
theorem built_columns_fit_sample :
    let row : Json := .object [("score", .number ⟨300, 0⟩)]
    let hit : Json := .object [("_source", row)]
    (∃ error, hitsToRecordBatch plainLibrary byteSchema [hit] = .error error ∧ ∃ field ∈ byteSchema.fields,
      ColumnError plainLibrary field.name [hitValue field.name hit] field.dataType error) ∧
    ∃ error, rowsToRecordBatch plainLibrary smallSchema [row] = .error error ∧
      ∃ field ∈ smallSchema.fields, ColumnError plainLibrary field.name [row.field? field.name] field.dataType error := by
  intro row hit
  obtain ⟨error, hError⟩ : ∃ error, hitsToRecordBatch plainLibrary byteSchema [hit] = .error error := ⟨_, rfl⟩
  obtain ⟨other, hOther⟩ : ∃ error, rowsToRecordBatch plainLibrary smallSchema [row] = .error error := ⟨_, rfl⟩
  obtain ⟨field, hField, -, hColumn⟩ := ((built_columns_fit plainLibrary).1 _ _ (by decide +kernel)).errors error hError
  obtain ⟨second, hSecond, -, hCell⟩ :=
    ((built_columns_fit plainLibrary).2 _ _ _ _ (by decide +kernel)).errors other hOther
  exact ⟨⟨error, hError, field, hField, hColumn⟩, other, hOther, second, hSecond, hCell⟩

end Columns

end DataConnectHub.Connectors
