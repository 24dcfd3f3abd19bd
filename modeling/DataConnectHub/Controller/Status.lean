import DataConnectHub.Controller.Kube

/-! The status of a DataConnectService: its conditions, the releases it lists
and what the check of the cluster's ingress makes of them. -/
namespace DataConnectHub.Controller

open Serde

inductive Phase where
  | unset
  | progressing
  | error
  | ready
  | notReady
  deriving DecidableEq, Repr

inductive ConditionType where
  | ready
  | provisioningSucceeded
  | degraded
  | grpcGatewaySupported
  | other (name : String)
  deriving DecidableEq, Repr

inductive ConditionStatus where
  | isTrue
  | isFalse
  | unknown
  deriving DecidableEq, Repr

structure Condition where
  type : ConditionType
  status : ConditionStatus
  observedGeneration : Nat
  reason : String
  message : String
  deriving DecidableEq, Repr

structure ReleaseStatus where
  name : String
  repoUrl : String
  version : String
  deriving DecidableEq, Repr

structure DistributionStatus where
  name : String
  version : String
  deriving DecidableEq, Repr

structure DataConnectServiceStatus where
  observedGeneration : Nat
  distribution : DistributionStatus
  releases : List ReleaseStatus
  phase : Phase
  conditions : List Condition
  deriving DecidableEq, Repr

structure DataConnectService where
  name : String
  namespaceName : String
  uid : String
  generation : Nat
  deleting : Bool
  finalizers : List String
  status : DataConnectServiceStatus
  deriving DecidableEq, Repr

section Conditions

/-- A condition takes the place of the one of its type. -/
def setStatusCondition (new : Condition) : List Condition → List Condition
  | [] => [new]
  | condition :: rest =>
    if condition.type = new.type then new :: rest else condition :: setStatusCondition new rest

def removeStatusCondition (type : ConditionType) (conditions : List Condition) : List Condition :=
  conditions.filter fun condition => condition.type ≠ type

def findStatusCondition (type : ConditionType) (conditions : List Condition) : Option Condition :=
  conditions.find? fun condition => condition.type = type

@[simp] theorem find_set_self (new : Condition) (conditions : List Condition) :
    findStatusCondition new.type (setStatusCondition new conditions) = some new := by
  induction conditions with
  | nil => simp [findStatusCondition, setStatusCondition]
  | cons condition rest ih =>
    unfold setStatusCondition
    split
    · simp [findStatusCondition]
    next hOther => simpa [findStatusCondition, hOther] using ih

theorem find_set_other {new : Condition} {type : ConditionType} (h : type ≠ new.type) (conditions : List Condition) :
    findStatusCondition type (setStatusCondition new conditions) = findStatusCondition type conditions := by
  induction conditions with
  | nil => simp [findStatusCondition, setStatusCondition, h.symm]
  | cons condition rest ih =>
    unfold setStatusCondition
    split
    next hSame => simp [findStatusCondition, hSame, h.symm]
    · simp only [findStatusCondition, List.find?_cons] at ih ⊢
      rw [ih]

theorem find_remove_other {type other : ConditionType} (h : type ≠ other) (conditions : List Condition) :
    findStatusCondition type (removeStatusCondition other conditions) = findStatusCondition type conditions := by
  unfold findStatusCondition removeStatusCondition
  rw [List.find?_filter]
  congr 1
  funext condition
  by_cases hType : condition.type = type
  · simp [hType, h]
  · simp [hType]

def setCondition (type : ConditionType) (status : ConditionStatus) (reason message : String)
    (cr : DataConnectService) : DataConnectService :=
  let condition : Condition := ⟨type, status, cr.generation, reason, message⟩
  { cr with status := { cr.status with conditions := setStatusCondition condition cr.status.conditions } }

def DataConnectServiceStatus.isReady (status : DataConnectServiceStatus) : Bool :=
  (findStatusCondition .ready status.conditions).any fun condition => condition.status == .isTrue

theorem isReady_congr {first second : DataConnectServiceStatus}
    (h : findStatusCondition .ready first.conditions = findStatusCondition .ready second.conditions) :
    first.isReady = second.isReady := by
  unfold DataConnectServiceStatus.isReady
  rw [h]

variable (status : ConditionStatus) (reason message : String) (cr : DataConnectService)

@[simp] theorem isReady_setCondition (type : ConditionType) :
    (setCondition type status reason message cr).status.isReady =
      if type = .ready then status == .isTrue else cr.status.isReady := by
  let condition : Condition := ⟨type, status, cr.generation, reason, message⟩
  split
  next hType =>
      subst hType
      exact congrArg (Option.any fun found : Condition => found.status == .isTrue)
        (find_set_self condition cr.status.conditions)
  next hType =>
      have hOther : ConditionType.ready ≠ condition.type := fun h => hType h.symm
      exact isReady_congr (find_set_other hOther cr.status.conditions)

end Conditions

section Releases

def repoURL : String := "https://github.com/opendatahub-io/data-connect-hub"
def releasePlatform : String := "platform"

/-- What the platform's ConfigMap says, as far as the status depends on it. -/
structure PlatformConfig where
  distribution : DistributionStatus
  platformVersion : String

def readPlatformConfig (buildVersion : String) : Except ApiError (StringMap String) → PlatformConfig
  | .error _ => ⟨⟨"Standalone", buildVersion⟩, ""⟩
  | .ok data =>
    let value (key default : String) :=
      if annotationValue data key = "" then default else annotationValue data key
    ⟨⟨value "distribution.name" "Standalone", value "distribution.version" buildVersion⟩,
      annotationValue data "platformVersion"⟩

/-- The version in the entry of the platform, which is empty if there is no such
entry. -/
def DataConnectServiceStatus.platformVersion (status : DataConnectServiceStatus) : String :=
  ((status.releases.find? fun release => release.name == releasePlatform).map ReleaseStatus.version).getD ""

/-- The version of the platform advances only with `isReady`. -/
def buildReleases (buildVersion : String) (cr : DataConnectService) (platCfg : PlatformConfig)
    (isReady : Bool) : List ReleaseStatus :=
  let releases : List ReleaseStatus :=
    [⟨"rest-service", repoURL, buildVersion⟩, ⟨"flight-service", repoURL, buildVersion⟩]
  if platCfg.platformVersion = "" then releases
  else releases ++ [⟨releasePlatform, "", if isReady then platCfg.platformVersion else cr.status.platformVersion⟩]

theorem platformVersion_buildReleases {status : DataConnectServiceStatus} {buildVersion : String}
    {cr : DataConnectService} {platCfg : PlatformConfig} {isReady : Bool}
    (h : status.releases = buildReleases buildVersion cr platCfg isReady) :
    status.platformVersion = if isReady ∨ platCfg.platformVersion = "" then platCfg.platformVersion
      else cr.status.platformVersion := by
  rw [DataConnectServiceStatus.platformVersion, h, buildReleases]
  by_cases hNone : platCfg.platformVersion = ""
  · rw [if_pos hNone, if_pos (.inr hNone), hNone]
    rfl
  · rw [if_neg hNone]
    cases isReady with
    | true => rfl
    | false => exact (if_neg (by simp [hNone])).symm

end Releases

section Gateway

def annotationHTTP2Enable : String := "ingress.operator.openshift.io/default-enable-http2"

/-- Whether the ingress of the cluster has HTTP/2, and whether that is known. -/
def http2Enabled (clusterIngress : Except ApiError (StringMap String))
    (controllers : Except ApiError (List (StringMap String))) : Bool × Bool :=
  let enables (annotations : StringMap String) := annotationValue annotations annotationHTTP2Enable == "true"
  match clusterIngress, controllers with
  | .ok ingress, .ok items => (enables ingress || items.any enables, true)
  | .ok ingress, .error _ => (enables ingress, true)
  | .error _, .ok items => (items.any enables, true)
  | .error _, .error _ => (false, false)

def http2DisabledMessage : String :=
  "gRPC (flight-service) traffic routed through an OpenShift Route requires HTTP/2, which OpenShift disables " ++
    "by default. A cluster-admin must enable it, e.g.: oc annotate ingresses.config/cluster " ++
    annotationHTTP2Enable ++ "=true --overwrite. The Route also needs its own dedicated TLS certificate " ++
    "instead of the shared default one for ALPN to negotiate."

/-- An ingress known to be without HTTP/2 takes the readiness back. -/
def checkGRPCGatewaySupport (http2 : Bool × Bool) (cr : DataConnectService) : DataConnectService :=
  match http2 with
  | (_, false) => { cr with status := { cr.status with
      conditions := removeStatusCondition .grpcGatewaySupported cr.status.conditions } }
  | (true, true) => setCondition .grpcGatewaySupported .isTrue "HTTP2Enabled"
      ("Cluster ingress has HTTP/2 enabled; gRPC (flight-service) traffic can negotiate ALPN " ++
        "through the gateway route") cr
  | (false, true) =>
    let cr := setCondition .ready .isFalse "GatewayHTTP2Disabled" http2DisabledMessage
      (setCondition .degraded .isTrue "GatewayHTTP2Disabled" http2DisabledMessage
        (setCondition .grpcGatewaySupported .isFalse "HTTP2Disabled" http2DisabledMessage cr))
    if cr.status.phase = .ready then { cr with status := { cr.status with phase := .notReady } } else cr

/-- The ingress is known to be without HTTP/2. -/
def http2Disabled (http2 : Bool × Bool) : Prop := http2 = (false, true)

instance (http2 : Bool × Bool) : Decidable (http2Disabled http2) := inferInstanceAs (Decidable (_ = _))

theorem releases_checkGRPCGatewaySupport (http2 : Bool × Bool) (cr : DataConnectService) :
    (checkGRPCGatewaySupport http2 cr).status.releases = cr.status.releases := by
  unfold checkGRPCGatewaySupport
  split
  · rfl
  · rfl
  · dsimp only
    split <;> rfl

/-- Otherwise the check leaves the phase and the readiness alone. -/
theorem ready_checkGRPCGatewaySupport {http2 : Bool × Bool} (h : ¬http2Disabled http2) (cr : DataConnectService) :
    (checkGRPCGatewaySupport http2 cr).status.phase = cr.status.phase ∧
      (checkGRPCGatewaySupport http2 cr).status.isReady = cr.status.isReady := by
  obtain ⟨enabled, known⟩ := http2
  cases known with
  | false =>
    have hOther : ConditionType.ready ≠ .grpcGatewaySupported := nofun
    exact ⟨rfl, isReady_congr (find_remove_other hOther cr.status.conditions)⟩
  | true =>
    cases enabled with
    | false => exact absurd rfl h
    | true => exact ⟨rfl, isReady_setCondition ..⟩

/-- When it takes the readiness back, the phase follows. -/
theorem notReady_checkGRPCGatewaySupport {http2 : Bool × Bool} (h : http2Disabled http2) (cr : DataConnectService) :
    (checkGRPCGatewaySupport http2 cr).status.phase ≠ .ready ∧
      (checkGRPCGatewaySupport http2 cr).status.isReady = false := by
  rw [http2Disabled] at h
  subst h
  unfold checkGRPCGatewaySupport
  dsimp only
  split
  · exact ⟨nofun, isReady_setCondition ..⟩
  next hPhase => exact ⟨hPhase, isReady_setCondition ..⟩

theorem unready_checkGRPCGatewaySupport (http2 : Bool × Bool) {cr : DataConnectService}
    (hPhase : cr.status.phase ≠ .ready) (hReady : cr.status.isReady = false) :
    (checkGRPCGatewaySupport http2 cr).status.phase ≠ .ready ∧
      (checkGRPCGatewaySupport http2 cr).status.isReady = false := by
  by_cases hDisabled : http2Disabled http2
  · exact notReady_checkGRPCGatewaySupport hDisabled cr
  · obtain ⟨hSamePhase, hSameReady⟩ := ready_checkGRPCGatewaySupport hDisabled cr
    rw [hSamePhase, hSameReady]
    exact ⟨hPhase, hReady⟩

end Gateway
end DataConnectHub.Controller
