import DataConnectHub.Controller.Deployments

/-! The variables of the trace exporter. A container of the services has just those
that the resource asks for, whatever it had before. -/
namespace DataConnectHub.Controller

open Serde Unstructured List

structure Trace where
  exporter : String
  insecure : Option Bool
  certificate : String

structure EnvVar where
  name : String
  value : String
  deriving DecidableEq, Repr

def envOTLPEndpoint : String := "OTEL_EXPORTER_OTLP_ENDPOINT"
def envOTLPInsecure : String := "OTEL_EXPORTER_OTLP_INSECURE"
def envOTLPCertificate : String := "OTEL_EXPORTER_OTLP_CERTIFICATE"

def otlpVars : List String := [envOTLPEndpoint, envOTLPInsecure, envOTLPCertificate]

def traceEnv : Option Trace → List EnvVar
  | none => []
  | some trace =>
    (if trace.exporter ≠ "" then [⟨envOTLPEndpoint, trace.exporter⟩] else []) ++
      (trace.insecure.toList.map fun insecure => ⟨envOTLPInsecure, toString insecure⟩) ++
      if trace.certificate ≠ "" then [⟨envOTLPCertificate, trace.certificate⟩] else []

def EnvVar.entry (var : EnvVar) : Json := .object [("name", .string var.name), ("value", .string var.value)]

/-- An entry whose name is one of the three. What is no object has no name. -/
def isOtlpEntry : Json → Bool
  | .object members => otlpVars.contains (nestedString ["name"] (.object members))
  | _ => false

/-- The entries of a container's environment. -/
def envEntries (container : Json) : List Json := ((container.field? "env").bind Json.asArray).getD []

section Code

variable (trace : Option Trace) (containerNames : List String)

/-- What the loop body makes of a container; nothing if it leaves it alone. -/
def reconcileTraceContainer : Json → Option Json
  | .object members =>
    let container := Json.object members
    if containerName container ∈ containerNames then
      let env := envEntries container
      let desiredVars := traceEnv trace
      let newEnv := (env.filter fun entry => !isOtlpEntry entry) ++ desiredVars.map EnvVar.entry
      if newEnv.length ≠ env.length ∨ desiredVars ≠ [] then
        some (.object (Json.put "env" (.array newEnv) members))
      else none
    else none
  | _ => none

/-- The list of containers is written back if one of them was changed. -/
def reconcileTraceObject (obj : Json) : Json × Bool :=
  if getKind obj = kindDeployment then
    match nestedSlice? containersPath obj with
    | none => (obj, false)
    | some containers =>
      let edited := containers.map (reconcileTraceContainer trace containerNames)
      if edited.any Option.isSome then
        (setNested containersPath (.array (edited.zipWith (fun new old => new.getD old) containers)) obj, true)
      else (obj, false)
  else (obj, false)

/-- The resources afterwards, and whether any was updated. -/
def reconcileTraceEnv (resources : List Json) : List Json × Bool :=
  let done := resources.map (reconcileTraceObject trace containerNames)
  (done.map Prod.fst, done.any Prod.snd)

end Code

section Containers

variable (trace : Option Trace) (containerNames : List String)

/-- The container after the loop body. -/
def tracedContainer (container : Json) : Json :=
  (reconcileTraceContainer trace containerNames container).getD container

/-- A named container has just the asked entries of the three, and its other entries
and fields as they were. Any other container is the same. -/
inductive TraceReconciled (trace : Option Trace) (containerNames : List String) : Json → Json → Prop where
  | named {members : Members} {after : Json} (hName : containerName (.object members) ∈ containerNames)
      (hOtlp : (envEntries after).filter isOtlpEntry = (traceEnv trace).map EnvVar.entry)
      (hOthers : (envEntries after).filter (fun entry => !isOtlpEntry entry) =
        (envEntries (.object members)).filter fun entry => !isOtlpEntry entry)
      (hFields : ∀ name ≠ "env", after.field? name = (Json.object members).field? name) :
      TraceReconciled trace containerNames (.object members) after
  | other {container : Json} (h : containerName container ∉ containerNames ∨ container.asObject = none) :
      TraceReconciled trace containerNames container container

theorem isOtlpEntry_of_mem_traceEnv {entry : Json} (h : entry ∈ (traceEnv trace).map EnvVar.entry) :
    isOtlpEntry entry = true := by
  obtain ⟨var, hVar, rfl⟩ := mem_map.mp h
  have hName : var.name ∈ otlpVars := by
    cases trace with
    | none => cases hVar
    | some trace =>
      simp only [traceEnv, mem_append, mem_map, mem_ite_nil_right, mem_singleton] at hVar
      rcases hVar with (⟨-, rfl⟩ | ⟨insecure, -, rfl⟩) | ⟨-, rfl⟩
      · exact .head _
      · exact .tail _ (.head _)
      · exact .tail _ (.tail _ (.head _))
  exact contains_iff_mem.mpr hName

/-- The environment that is written. -/
def tracedEnv (env : List Json) : List Json :=
  (env.filter fun entry => !isOtlpEntry entry) ++ (traceEnv trace).map EnvVar.entry

variable (container : Json) (env : List Json)

theorem filter_otlp_tracedEnv : (tracedEnv trace env).filter isOtlpEntry = (traceEnv trace).map EnvVar.entry := by
  have hKept : (env.filter fun entry => !isOtlpEntry entry).filter isOtlpEntry = [] := by
    rw [filter_filter, filter_eq_nil_iff]
    simp
  rw [tracedEnv, filter_append, hKept, nil_append, filter_eq_self]
  exact fun entry => isOtlpEntry_of_mem_traceEnv trace

theorem filter_others_tracedEnv :
    (tracedEnv trace env).filter (fun entry => !isOtlpEntry entry) = env.filter fun entry => !isOtlpEntry entry := by
  have hNew : ((traceEnv trace).map EnvVar.entry).filter (fun entry => !isOtlpEntry entry) = [] := by
    rw [filter_eq_nil_iff]
    intro entry hEntry
    rw [isOtlpEntry_of_mem_traceEnv trace hEntry]
    exact Bool.false_ne_true
  rw [tracedEnv, filter_append, hNew, append_nil, filter_filter]
  simp

theorem tracedEnv_tracedEnv : tracedEnv trace (tracedEnv trace env) = tracedEnv trace env := by
  rw [tracedEnv, filter_others_tracedEnv, tracedEnv]

/-- An environment that keeps its length although nothing was asked for had none of the
three. -/
theorem tracedEnv_eq_self {env : List Json} (hLength : (tracedEnv trace env).length = env.length)
    (hNone : traceEnv trace = []) : tracedEnv trace env = env := by
  rw [tracedEnv, hNone, map_nil, append_nil] at hLength ⊢
  exact filter_eq_self.mpr (length_filter_eq_length_iff.mp hLength)

theorem envEntries_put (members : Members) (env : List Json) :
    envEntries (.object (Json.put "env" (.array env) members)) = env := by
  rw [envEntries, Json.field?, Json.members, Json.lookup_put, if_pos rfl]
  rfl

/-- A container that is left alone either is not meant, or has what is asked for. -/
theorem tracedContainer_cases : (containerName container ∉ containerNames ∨ container.asObject = none) ∧
        tracedContainer trace containerNames container = container ∨
      ∃ members, container = .object members ∧ containerName container ∈ containerNames ∧
        (tracedContainer trace containerNames container =
            .object (Json.put "env" (.array (tracedEnv trace (envEntries container))) members) ∨
          tracedContainer trace containerNames container = container ∧
            tracedEnv trace (envEntries container) = envEntries container) := by
  cases container with
  | object members =>
    by_cases hName : containerName (.object members) ∈ containerNames
    · refine .inr ⟨members, rfl, hName, ?_⟩
      rw [tracedContainer, reconcileTraceContainer, if_pos hName]
      by_cases hChanged : (tracedEnv trace (envEntries (.object members))).length ≠
          (envEntries (.object members)).length ∨ traceEnv trace ≠ []
      · exact .inl (congrArg (Option.getD · _) (if_pos hChanged))
      · obtain ⟨hLength, hNone⟩ := not_or.mp hChanged
        refine .inr ⟨congrArg (Option.getD · _) (if_neg hChanged), ?_⟩
        exact tracedEnv_eq_self trace (not_not.mp hLength) (not_not.mp hNone)
    · refine .inl ⟨.inl hName, ?_⟩
      rw [tracedContainer, reconcileTraceContainer, if_neg hName]
      rfl
  | _ => exact .inl ⟨.inr rfl, rfl⟩

theorem tracedContainer_reconciled :
    TraceReconciled trace containerNames container (tracedContainer trace containerNames container) := by
  rcases tracedContainer_cases trace containerNames container with
    ⟨hOther, hSame⟩ | ⟨members, rfl, hName, hPut | ⟨hSame, hEnv⟩⟩
  · rw [hSame]
    exact .other hOther
  · rw [hPut]
    refine .named hName ?_ ?_ fun name hOther => (Json.lookup_put ..).trans (if_neg hOther)
    · rw [envEntries_put, filter_otlp_tracedEnv]
    · rw [envEntries_put, filter_others_tracedEnv]
  · rw [hSame]
    refine .named hName ?_ rfl fun _ _ => rfl
    rw [← hEnv, filter_otlp_tracedEnv]

theorem tracedContainer_tracedContainer :
    tracedContainer trace containerNames (tracedContainer trace containerNames container) =
      tracedContainer trace containerNames container := by
  rcases tracedContainer_cases trace containerNames container with
    ⟨-, hSame⟩ | ⟨members, rfl, hName, hPut | ⟨hSame, -⟩⟩
  · rw [hSame, hSame]
  · rw [hPut]
    rcases tracedContainer_cases trace containerNames
        (.object (Json.put "env" (.array (tracedEnv trace (envEntries (.object members)))) members)) with
      ⟨-, hAgain⟩ | ⟨members', hMembers, -, hAgain | ⟨hAgain, -⟩⟩
    · exact hAgain
    · obtain rfl := Json.object.inj hMembers
      rw [hAgain, envEntries_put, tracedEnv_tracedEnv, put_put]
    · exact hAgain
  · rw [hSame, hSame]

end Containers

section Resources

variable (trace : Option Trace) (containerNames : List String)

theorem zipWith_getD_map (edit : Json → Option Json) (containers : List Json) :
    (containers.map edit).zipWith (fun new old => new.getD old) containers =
      containers.map fun container => (edit container).getD container := by
  induction containers with
  | nil => rfl
  | cons container containers ih => rw [map_cons, zipWith_cons_cons, ih, map_cons]

/-- Where no container is changed, the list is the one that was there. -/
theorem map_tracedContainer_of_none {containers : List Json}
    (h : (containers.map (reconcileTraceContainer trace containerNames)).any Option.isSome = false) :
    containers.map (tracedContainer trace containerNames) = containers := by
  rw [any_map, any_eq_false] at h
  have hSame : ∀ container ∈ containers, tracedContainer trace containerNames container = container := by
    intro container hMem
    rw [tracedContainer, Option.not_isSome_iff_eq_none.mp (h container hMem)]
    rfl
  rw [map_congr_left hSame, map_id']

/-- Whether the list is written back makes no difference to the resource. -/
theorem reconcileTraceObject_cases (obj : Json) :
    (reconcileTraceObject trace containerNames obj).1 = editContainers (tracedContainer trace containerNames) obj ∧
      ((reconcileTraceObject trace containerNames obj).2 = false →
        (reconcileTraceObject trace containerNames obj).1 = obj) := by
  rcases containers_or_untouched obj with ⟨hKind, containers, hContainers⟩ | hUntouched
  · rw [editContainers_of_containers hKind hContainers, reconcileTraceObject, if_pos hKind, hContainers]
    dsimp only
    cases hAny : (containers.map (reconcileTraceContainer trace containerNames)).any Option.isSome with
    | true =>
      rw [if_pos rfl, zipWith_getD_map]
      exact ⟨rfl, fun hFalse => absurd hFalse.symm Bool.false_ne_true⟩
    | false =>
      rw [if_neg Bool.false_ne_true, map_tracedContainer_of_none trace containerNames hAny, setNested_self hContainers]
      exact ⟨rfl, fun _ => rfl⟩
  · have hSame : reconcileTraceObject trace containerNames obj = (obj, false) := by
      rw [reconcileTraceObject]
      rcases hUntouched with hKind | hNone
      · rw [if_neg hKind]
      · rw [hNone, ite_self]
    rw [editContainers_of_untouched hUntouched, hSame]
    exact ⟨rfl, fun _ => rfl⟩

theorem reconcileTraceEnv_fst (resources : List Json) : (reconcileTraceEnv trace containerNames resources).1 =
    resources.map (editContainers (tracedContainer trace containerNames)) := by
  rw [reconcileTraceEnv, map_map]
  exact map_congr_left fun obj _ => (reconcileTraceObject_cases trace containerNames obj).1

/-- The named containers of all Deployments have just the variables that are asked for,
and nothing else is changed. Nothing at all is changed if the function says so, and
nothing by a second call. -/
theorem trace_env_reconciled (resources : List Json) :
    List.Forall₂ (EditedContainers (TraceReconciled trace containerNames)) resources
        (reconcileTraceEnv trace containerNames resources).1 ∧
      ((reconcileTraceEnv trace containerNames resources).2 = false →
        (reconcileTraceEnv trace containerNames resources).1 = resources) ∧
      (reconcileTraceEnv trace containerNames (reconcileTraceEnv trace containerNames resources).1).1 =
        (reconcileTraceEnv trace containerNames resources).1 := by
  refine ⟨?_, fun hFalse => ?_, ?_⟩
  · rw [reconcileTraceEnv_fst, forall₂_map_right_iff, forall₂_same]
    exact fun obj _ => editedContainers_of fun _ _ _ container _ =>
      tracedContainer_reconciled trace containerNames container
  · rw [reconcileTraceEnv, any_map, any_eq_false] at hFalse
    have hSame : ∀ obj ∈ resources, (reconcileTraceObject trace containerNames obj).1 = obj := fun obj hMem =>
      (reconcileTraceObject_cases trace containerNames obj).2 (Bool.not_eq_true _ ▸ hFalse obj hMem)
    rw [reconcileTraceEnv, map_map]
    exact (map_congr_left hSame).trans (map_id' resources)
  · rw [reconcileTraceEnv_fst, reconcileTraceEnv_fst, map_map]
    refine map_congr_left fun obj _ => ?_
    rw [Function.comp_apply, editContainers_editContainers]
    exact editContainers_congr fun _ _ _ container _ => tracedContainer_tracedContainer trace containerNames container

end Resources

end DataConnectHub.Controller
