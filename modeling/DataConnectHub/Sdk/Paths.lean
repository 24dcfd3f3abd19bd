import DataConnectHub.PyStd.Str
import DataConnectHub.RustStd.Result
import DataConnectHub.Uri.Path

/-! The exceptions of the Python SDK, and the paths of the requests it sends. Ids that the caller gives become
segments of the path, percent-encoded, so that an id cannot name another
resource. A reader of the path removes dot segments first. -/
namespace DataConnectHub.Sdk

open PyStd RustStd List

/-- The classes below `DCHHTTPError`, and that class itself. -/
inductive HttpErrorClass where
  | http
  | notFound
  | validation
  | authentication
  | forbidden
  | conflict
  | server
  deriving DecidableEq, Repr

/-- The classes below `DCHError` that the REST client raises, and that class
itself. -/
inductive DchError where
  | dch (message : String)
  | connection (message : String)
  | timeout (message : String)
  | response (message : String)
  | config (message : String)
  | http (errorClass : HttpErrorClass) (message : String) (statusCode : Nat) (body : String)
  deriving DecidableEq, Repr

/-- What a call of the SDK can raise: an exception of its own, or one of another
package or of the language. -/
inductive Raised where
  | dch (error : DchError)
  | foreign (exception : PyException)
  deriving DecidableEq, Repr

inductive Method where
  | get
  | head
  | put
  | delete
  | options
  | post
  | patch
  deriving DecidableEq, Repr

/-- The prefix of every path. It is a path itself: empty or absolute, and with
neither a query nor a fragment. -/
structure ApiBase where
  text : String
  hAbsolute : text.toList.head? = none ∨ text.toList.head? = some '/'
  hPath : ∀ c ∈ text.toList, c ≠ '?' ∧ c ≠ '#'

def defaultApiBase : ApiBase where
  text := "/api/v1alpha1/data"
  hAbsolute := by decide
  hPath := by
    intro c hMem
    have hAll : ("/api/v1alpha1/data".toList.all fun c => decide (c ≠ '?' ∧ c ≠ '#')) = true := by decide
    exact of_decide_eq_true (List.all_eq_true.mp hAll c hMem)

def connectionsEndpoint : String := "/connections"
def connectionTypesEndpoint : String := "/connection-types"

/-- `_segment`. -/
def segment (value : PyStr) (name : String) : Except Raised String :=
  if value = [] ∨ strip value = [] then .error (.dch (.config s!"{name} must be a non-empty string"))
  else okOr (.foreign ⟨"UnicodeEncodeError", "surrogates not allowed"⟩) (quote value)

/-- The methods of the client that are about one resource. -/
inductive ResourceCall where
  | getConnection (connectionId : PyStr)
  | updateConnection (connectionId : PyStr)
  | deleteConnection (connectionId : PyStr)
  | exportConnection (connectionId secretName : PyStr)
  | checkConnectionReadiness (connectionId : PyStr)
  | downloadBinary (connectionId path : PyStr)
  | getConnectionType (typeId : PyStr)
  | updateConnectionType (typeId : PyStr)
  | deleteConnectionType (typeId : PyStr)

namespace ResourceCall

/-- A path that ends in the id of the resource. -/
def resourcePath (endpoint : String) (value : PyStr) (name : String) : Except Raised String := do
  let value ← segment value name
  return s!"{endpoint}/{value}"

def path : ResourceCall → Except Raised String
  | getConnection connectionId => resourcePath connectionsEndpoint connectionId "connection_id"
  | updateConnection connectionId => resourcePath connectionsEndpoint connectionId "connection_id"
  | deleteConnection connectionId => resourcePath connectionsEndpoint connectionId "connection_id"
  | exportConnection connectionId secretName => do
      let connection ← segment connectionId "connection_id"
      let secret ← segment secretName "secret_name"
      return s!"{connectionsEndpoint}/{connection}/exports/secrets/{secret}"
  | checkConnectionReadiness connectionId => do
      let connection ← segment connectionId "connection_id"
      return s!"{connectionsEndpoint}/{connection}/readiness"
  | downloadBinary connectionId path =>
    if path = [] then .error (.dch (.config "path must be a non-empty string"))
    else do
      let connection ← segment connectionId "connection_id"
      return s!"{connectionsEndpoint}/{connection}/binary"
  | getConnectionType typeId => resourcePath connectionTypesEndpoint typeId "type_id"
  | updateConnectionType typeId => resourcePath connectionTypesEndpoint typeId "type_id"
  | deleteConnectionType typeId => resourcePath connectionTypesEndpoint typeId "type_id"

end ResourceCall

/-- The segments of the path as a reader sees them once dots are removed. -/
def sentSegments (base : ApiBase) (path : String) : List Uri.Segment :=
  Uri.removeDotSegments (Uri.segments (Uri.pathOf (base.text ++ path).toList))

section Layout

/-- What a segment of a path is meant to be. -/
inductive Part where
  | fixed (name : String)
  | id (value : PyStr)

def ResourceCall.layout : ResourceCall → List Part
  | getConnection connectionId => [.fixed "connections", .id connectionId]
  | updateConnection connectionId => [.fixed "connections", .id connectionId]
  | deleteConnection connectionId => [.fixed "connections", .id connectionId]
  | exportConnection connectionId secretName =>
    [.fixed "connections", .id connectionId, .fixed "exports", .fixed "secrets", .id secretName]
  | checkConnectionReadiness connectionId => [.fixed "connections", .id connectionId, .fixed "readiness"]
  | downloadBinary connectionId _ => [.fixed "connections", .id connectionId, .fixed "binary"]
  | getConnectionType typeId => [.fixed "connection-types", .id typeId]
  | updateConnectionType typeId => [.fixed "connection-types", .id typeId]
  | deleteConnectionType typeId => [.fixed "connection-types", .id typeId]

def Part.Fits : Part → Uri.Segment → Prop
  | .fixed name, found => found = name.toList
  | .id value, found => (Uri.percentDecodeText found).map (·.map PyChar.scalar) = some value

/-- The request is for the resource the caller named: after the base come the
fixed segments and the ids, in their places. -/
def OnTarget (base : ApiBase) (call : ResourceCall) (path : String) : Prop :=
  ∃ found, sentSegments base path = Uri.directory (Uri.segments base.text.toList) ++ found ∧
    List.Forall₂ Part.Fits call.layout found

/-- How a part is written. -/
def Part.Written : Part → Uri.Segment → Prop
  | .fixed name, written => written = name.toList
  | .id value, written => ∃ quoted, quote value = some quoted ∧ written = quoted.toList

end Layout

section Written

variable {call : ResourceCall} {path : String} {base : ApiBase} {value : PyStr} {part : Part} {written : Uri.Segment}

theorem quote_of_segment {name quoted : String} (h : segment value name = .ok quoted) : quote value = some quoted := by
  unfold segment at h
  split at h
  · cases h
  · exact okOr_eq_ok.mp h

theorem written_of_segment {name quoted : String} (h : segment value name = .ok quoted) :
    (Part.id value).Written quoted.toList :=
  ⟨quoted, quote_of_segment h, rfl⟩

theorem written_resourcePath {endpoint name noun : String} (hEndpoint : endpoint.toList = '/' :: noun.toList)
    (h : ResourceCall.resourcePath endpoint value name = .ok path) :
    ∃ parts, List.Forall₂ Part.Written [.fixed noun, .id value] parts ∧
      path.toList = parts.flatMap fun part => '/' :: part := by
  obtain ⟨quoted, hQuoted, h⟩ := bind_eq_ok.mp h
  cases h
  refine ⟨[noun.toList, quoted.toList], .cons rfl (.cons (written_of_segment hQuoted) .nil), ?_⟩
  simp [hEndpoint, toString]

theorem written_of_path (h : call.path = .ok path) : ∃ parts, List.Forall₂ Part.Written call.layout parts ∧
      path.toList = parts.flatMap fun part => '/' :: part := by
  cases call with
  | getConnection connectionId | updateConnection connectionId | deleteConnection connectionId
  | getConnectionType typeId | updateConnectionType typeId
  | deleteConnectionType typeId => exact written_resourcePath (by decide) h
  | exportConnection connectionId secretName =>
    obtain ⟨connection, hConnection, h⟩ := bind_eq_ok.mp h
    obtain ⟨secret, hSecret, h⟩ := bind_eq_ok.mp h
    cases h
    refine ⟨["connections".toList, connection.toList, "exports".toList, "secrets".toList, secret.toList],
      .cons rfl (.cons (written_of_segment hConnection) (.cons rfl (.cons rfl
        (.cons (written_of_segment hSecret) .nil)))), ?_⟩
    simp [connectionsEndpoint, toString]
  | checkConnectionReadiness connectionId =>
    obtain ⟨connection, hConnection, h⟩ := bind_eq_ok.mp h
    cases h
    refine ⟨["connections".toList, connection.toList, "readiness".toList],
      .cons rfl (.cons (written_of_segment hConnection) (.cons rfl .nil)), ?_⟩
    simp [connectionsEndpoint, toString]
  | downloadBinary connectionId path =>
    rw [ResourceCall.path] at h
    split at h
    · cases h
    · obtain ⟨connection, hConnection, h⟩ := bind_eq_ok.mp h
      cases h
      refine ⟨["connections".toList, connection.toList, "binary".toList],
        .cons rfl (.cons (written_of_segment hConnection) (.cons rfl .nil)), ?_⟩
      simp [connectionsEndpoint, toString]

/-- A written part has no character that ends a segment or a path. -/
theorem Part.Written.plain (h : part.Written written)
    (hFixed : ∀ name, part = .fixed name → ∀ c ∈ name.toList, c ≠ '/' ∧ c ≠ '?' ∧ c ≠ '#') :
    ∀ c ∈ written, c ≠ '/' ∧ c ≠ '?' ∧ c ≠ '#' := by
  cases part with
  | fixed name =>
    rw [h]
    exact hFixed name rfl
  | id value =>
    obtain ⟨quoted, hQuoted, rfl⟩ := h
    intro c hMem
    refine ⟨?_, ?_, ?_⟩ <;> rintro rfl <;> exact not_mem_quote (by decide) (by decide) (by decide) hQuoted hMem

theorem Part.Written.fits (h : part.Written written) : part.Fits written := by
  cases part with
  | fixed name => exact h
  | id value =>
    obtain ⟨quoted, hQuoted, rfl⟩ := h
    exact percentDecodeText_quote hQuoted

def dotIds : List PyStr := [str ".", str ".."]

/-- An id is written as a dot segment only if it is one. -/
theorem isDot_quote_iff {quoted : String} (h : quote value = some quoted) :
    Uri.IsDot quoted.toList ↔ value ∈ dotIds := by
  have hOne : quoted.toList = ['.'] ↔ value = str "." := by
    rw [← quote_eq_self_iff h (by decide), ← String.toList_inj]
    rfl
  have hTwo : quoted.toList = ['.', '.'] ↔ value = str ".." := by
    rw [← quote_eq_self_iff h (by decide), ← String.toList_inj]
    rfl
  rw [Uri.IsDot, hOne, hTwo, dotIds, mem_cons, mem_singleton]

/-- The fixed names of a path have only letters and hyphens. -/
theorem ResourceCall.layout_fixed {name : String} (h : .fixed name ∈ call.layout) :
    (∀ c ∈ name.toList, c ≠ '/' ∧ c ≠ '?' ∧ c ≠ '#') ∧ ¬ Uri.IsDot name.toList := by
  have hName : name ∈ ["connections", "connection-types", "exports", "secrets", "readiness", "binary"] := by
    cases call <;> simp only [ResourceCall.layout, mem_cons, Part.fixed.injEq, not_mem_nil,
      reduceCtorEq, or_false, false_or] at h ⊢ <;> tauto
  have hAll : (["connections", "connection-types", "exports", "secrets", "readiness", "binary"].all fun name =>
      (name.toList.all fun c => decide (c ≠ '/' ∧ c ≠ '?' ∧ c ≠ '#')) && decide (¬ Uri.IsDot name.toList)) = true := by
    decide
  have hFixed := all_eq_true.mp hAll name hName
  simp only [Bool.and_eq_true, all_eq_true, decide_eq_true_eq] at hFixed
  exact hFixed

/-- The path as it is sent, before dots are removed: the base and the written
parts. -/
theorem sentSegments_eq (base : ApiBase) (h : call.path = .ok path) :
    ∃ parts, List.Forall₂ Part.Written call.layout parts ∧
      sentSegments base path = Uri.removeDotSegments (Uri.segments base.text.toList ++ parts) := by
  obtain ⟨parts, hParts, hPath⟩ := written_of_path h
  refine ⟨parts, hParts, ?_⟩
  have hPlain : ∀ part ∈ parts, ∀ c ∈ part, c ≠ '/' ∧ c ≠ '?' ∧ c ≠ '#' := by
    intro written hMem
    obtain ⟨part, hPart, hWritten⟩ := exists_of_forall₂_right hParts hMem
    refine hWritten.plain fun name hName => ?_
    rw [hName] at hPart
    exact (ResourceCall.layout_fixed hPart).1
  have hNoQuery : ∀ c ∈ (base.text ++ path).toList, c ≠ '?' ∧ c ≠ '#' := by
    intro c hMem
    rw [String.toList_append, hPath, mem_append, mem_flatMap] at hMem
    rcases hMem with hBase | ⟨part, hPart, hChar⟩
    · exact base.hPath c hBase
    · rcases mem_cons.mp hChar with rfl | hChar
      · decide
      · exact (hPlain part hPart c hChar).2
  rw [sentSegments, Uri.pathOf_eq_self hNoQuery, String.toList_append, hPath,
    Uri.segments_append _ fun part hPart hSlash => (hPlain part hPart '/' hSlash).1 rfl]

theorem ResourceCall.layout_ne_nil (call : ResourceCall) : call.layout ≠ [] := by
  cases call <;> exact cons_ne_nil _ _

/-- No part that is written as a dot segment fits an empty segment. -/
theorem not_isDot_of_fits_nil (hPart : part ∈ call.layout) (hFits : part.Fits []) (hWritten : part.Written written) :
    ¬ Uri.IsDot written := by
  cases part with
  | fixed name =>
    rw [hWritten]
    exact (ResourceCall.layout_fixed hPart).2
  | id value =>
    obtain ⟨quoted, hQuoted, rfl⟩ := hWritten
    have hEmpty : (some [] : Option PyStr) = some value := hFits
    cases Option.some.inj hEmpty
    rw [isDot_quote_iff hQuoted]
    decide

/-- A request reaches the resource whose ids the caller gave if and only if no
id is `.` or `..`. These are written as they are, so they are moves in the
hierarchy for whoever reads the path. -/
theorem onTarget_iff (base : ApiBase) (h : call.path = .ok path) :
    OnTarget base call path ↔ ∀ value, .id value ∈ call.layout → value ≠ str "." ∧ value ≠ str ".." := by
  obtain ⟨parts, hParts, hSent⟩ := sentSegments_eq base h
  constructor
  · rintro ⟨found, hFound, hFits⟩ value hValue
    by_contra hDot
    have hDotId : value ∈ dotIds := by
      rw [dotIds, mem_cons, mem_singleton]
      tauto
    obtain ⟨written, hMem, quoted, hQuoted, rfl⟩ := exists_of_forall₂_left hParts hValue
    obtain ⟨hEnd, last, hLast, hLastDot⟩ := Uri.last_of_removeDotSegments
      ⟨_, hMem, (isDot_quote_iff hQuoted).mpr hDotId⟩ (hSent.symm.trans hFound)
      (hFits.length_eq.symm.trans hParts.length_eq)
    obtain ⟨part, hPart, hEndFits⟩ := exists_getLast_of_forall₂ hFits hEnd
    obtain ⟨other, hOther, hLastWritten⟩ := exists_getLast_of_forall₂ hParts hLast
    rw [hPart] at hOther
    cases hOther
    exact not_isDot_of_fits_nil (mem_of_getLast? hPart) hEndFits hLastWritten hLastDot
  · intro hIds
    have hPlain : ∀ written ∈ parts, ¬ Uri.IsDot written := by
      intro written hMem
      obtain ⟨part, hPart, hWritten⟩ := exists_of_forall₂_right hParts hMem
      cases part with
      | fixed name =>
        rw [hWritten]
        exact (ResourceCall.layout_fixed hPart).2
      | id value =>
        obtain ⟨quoted, hQuoted, rfl⟩ := hWritten
        rw [isDot_quote_iff hQuoted, dotIds, mem_cons, mem_singleton, not_or]
        exact hIds value hPart
    have hNonempty : parts ≠ [] := by
      rintro rfl
      exact call.layout_ne_nil (forall₂_nil_right_iff.mp hParts)
    refine ⟨parts, ?_, hParts.imp fun _ _ hWritten => hWritten.fits⟩
    rw [hSent, Uri.removeDotSegments_append hPlain hNonempty]

end Written

/-- An id with slashes, dots and a question mark. -/
def awkwardId : PyStr := str "a/../b?c"

theorem onTarget_awkwardId : (ResourceCall.getConnection awkwardId).path = .ok "/connections/a%2F..%2Fb%3Fc" ∧
    OnTarget defaultApiBase (.getConnection awkwardId) "/connections/a%2F..%2Fb%3Fc" := by
  have hPath : (ResourceCall.getConnection awkwardId).path = .ok "/connections/a%2F..%2Fb%3Fc" := by
    decide +kernel
  refine ⟨hPath, (onTarget_iff defaultApiBase hPath).mpr fun value hValue => ?_⟩
  have hId : value = awkwardId := by
    simpa [ResourceCall.layout] using hValue
  subst hId
  decide

/-- The id `..` is accepted, and the request to delete that connection goes to
the base itself. -/
theorem dots_retarget : (ResourceCall.deleteConnection (str "..")).path = .ok "/connections/.." ∧
    sentSegments defaultApiBase "/connections/.." = ["api".toList, "v1alpha1".toList, "data".toList, []] ∧
    ¬ OnTarget defaultApiBase (.deleteConnection (str "..")) "/connections/.." := by
  refine ⟨by decide +kernel, by decide +kernel, ?_⟩
  rintro ⟨found, hFound, hFits⟩
  have hLength := congrArg length hFound
  rw [length_append, ← hFits.length_eq] at hLength
  revert hLength
  decide +kernel

end DataConnectHub.Sdk
