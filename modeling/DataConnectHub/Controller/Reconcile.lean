import DataConnectHub.Controller.RestClient
import DataConnectHub.Controller.Status

/-! The reconcile of a DataConnectService. It checks the database secret,
applies the manifests, waits for the deployments, registers the Flight service
and writes one status. What the manifests contain is not modelled, only
whether they could be applied. -/
namespace DataConnectHub.Controller

open Serde RowStore Http Rest

def nameDatabaseConfig : String := "dch-database-config"
def nameSecretConfigTOML : String := "secret-config.toml"
def finalizerName : String := "dataconnecthub.opendatahub.io/finalizer"
def labelManagedBy : String := "dataconnecthub.opendatahub.io/managed-by"
def managedByDCHService : String := "dataconnectservice"

def requeueWaitingForReady : Nat := 10
def requeueOnError : Nat := 30
def requeueWhenReady : Nat := 300

/-- A deployment, with the replicas asked for and the counters of its status. -/
structure Deployment where
  namespaceName : String
  name : String
  labels : StringMap String
  owners : List String
  generation : Nat
  specReplicas : Option Int
  observedGeneration : Nat
  replicas : Int
  readyReplicas : Int
  updatedReplicas : Int

namespace Deployment

def isOwnedBy (deployment : Deployment) (uid : String) : Bool := deployment.owners.contains uid

def isManaged (deployment : Deployment) : Bool :=
  deployment.labels.lookup labelManagedBy == some managedByDCHService

def isReady (deployment : Deployment) : Bool :=
  deployment.readyReplicas == deployment.replicas && deployment.updatedReplicas == deployment.replicas &&
    deployment.generation == deployment.observedGeneration

end Deployment

/-- The managed deployments of the owner that are not ready yet, out of all
deployments of the cluster. -/
def pendingDeployments (namespaceName ownerUID : String) (deployments : List Deployment) : List String :=
  let items := deployments.filter fun deployment =>
    deployment.namespaceName == namespaceName && deployment.isManaged
  (items.filter fun deployment => deployment.isOwnedBy ownerUID && !deployment.isReady).map Deployment.name

def validateDatabaseSecret (namespaceName : String) : Except ApiError (StringMap String) → Option String
  | .error error =>
    if error.reason = .notFound then
      some (s!"secret \"{nameDatabaseConfig}\" not found in namespace \"{namespaceName}\" — " ++
        "it must contain a secret-config.toml key")
    else some s!"reading secret {nameDatabaseConfig}: {error.message}"
  | .ok data =>
    if isBlank (annotationValue data nameSecretConfigTOML) then
      some s!"secret \"{nameDatabaseConfig}\" is missing or has empty required key \"{nameSecretConfigTOML}\""
    else none

/-- How the write of a status ends. It may have been carried out although an
error is reported. -/
inductive Submission where
  | stored
  | refused (error : ApiError)
  | unconfirmed (error : ApiError)

/-- What one reconcile meets: the answers to its calls, and the connectors of
the running Flight service, which the REST service asks for. -/
structure Pass where
  getFault : Option ApiError
  updateFault : Option ApiError
  cleanupFault : Option ApiError
  platformConfig : Except ApiError (StringMap String)
  databaseSecret : Except ApiError (StringMap String)
  manifestsFault : Option ApiError
  deployments : Except ApiError (List Deployment)
  reported : List SupportedConnector
  flightFault : Option Grpc.Status
  registration : Delivery
  statusGetFault : Option ApiError
  gatewayFault : Option ApiError
  clusterIngress : Except ApiError (StringMap String)
  ingressControllers : Except ApiError (List (StringMap String))
  statusUpdate : Submission

structure Reconciler where
  buildVersion : String
  flightServiceClient : Option RestApi

/-- The resource as the cluster stores it, and the tables behind the REST
service. -/
structure Cluster where
  service : Option DataConnectService
  store : Tables

structure Reconciled where
  result : Except ApiError CtrlResult
  written : Option DataConnectServiceStatus
  cluster : Cluster

section Registration

/-- The Flight service answers the question for its connectors, or fails. -/
def Pass.connectors (pass : Pass) : Except Grpc.Status (List SupportedConnector) :=
  match pass.flightFault with
  | some status => .error status
  | none => .ok pass.reported

def Attempt.withConnectors (attempt : Attempt) (connectors : Except Grpc.Status (List SupportedConnector)) : Attempt :=
  { attempt with reply := fun
      | .getSupportedConnectors _ _ => connectors
      | issued => attempt.reply issued }

def Pass.delivery (pass : Pass) : Delivery :=
  match pass.registration with
  | .lost => .lost
  | .answered attempts => .answered fun n => (attempts n).withConnectors pass.connectors
  | .cut attempts => .cut fun n => (attempts n).withConnectors pass.connectors

def flightServiceResourceName (crName : String) : String := crName ++ "-flight"

def internalURL (cr : DataConnectService) : String :=
  s!"https://dch-{flightServiceResourceName cr.name}.{cr.namespaceName}.svc:8443"

/-- The registration as the REST service reads it. -/
def flightServiceRegistration (cr : DataConnectService) : FlightService :=
  { name := flightServiceResourceName cr.name
    namespaceName := cr.namespaceName
    externalUrl := internalURL cr
    internalUrl := internalURL cr
    supportedConnectors := []
    connectorCapabilities := ∅
    status := ⟨true⟩ }

def ClientError.text : ClientError → String
  | .conflict => "resource already exists"
  | .serviceUnavailable => "rest service unavailable"
  | .notFound => "resource not found"
  | .other message => message

/-- Without a client there is nothing to do. A service that is registered
already is not registered again. -/
def registerFlightService (r : Reconciler) (pass : Pass) (store : Tables) (cr : DataConnectService) :
    Except String Unit × Tables :=
  match r.flightServiceClient with
  | none => (.ok (), store)
  | some api =>
    let flight := flightServiceRegistration cr
    let done := api.registerFlightService cr.namespaceName flight pass.delivery store
    (match done.1 with
      | .ok () => .ok ()
      | .error .conflict => .ok ()
      | .error .serviceUnavailable => .error ClientError.serviceUnavailable.text
      | .error error => .error s!"registering flight service {flight.name}: {error.text}",
      done.2)

end Registration

section Status

def Cluster.get (cluster : Cluster) : Option ApiError → Except ApiError DataConnectService
  | some error => .error error
  | none =>
    match cluster.service with
    | some cr => .ok cr
    | none => .error ⟨.notFound, "dataconnectservice not found"⟩

def Phase.requeue : Phase → CtrlResult
  | .ready => .requeueAfter requeueWhenReady
  | .error => .requeueAfter requeueOnError
  | _ => .requeueAfter requeueWaitingForReady

/-- The resource with the status of this pass, before the caller changes it. -/
def withStatus (r : Reconciler) (cr : DataConnectService) (platCfg : PlatformConfig) (phase : Phase) :
    DataConnectService :=
  { cr with status := { cr.status with
      phase := phase
      observedGeneration := cr.generation
      distribution := platCfg.distribution
      releases := buildReleases r.buildVersion cr platCfg (phase == .ready) } }

def updateStatus (r : Reconciler) (pass : Pass) (cluster : Cluster) (platCfg : PlatformConfig) (phase : Phase)
    (mutate : DataConnectService → DataConnectService) : Reconciled :=
  match cluster.get pass.statusGetFault with
  | .error error => ⟨.error error, none, cluster⟩
  | .ok cr =>
    let cr := mutate (withStatus r cr platCfg phase)
    let failure (error : ApiError) : Except ApiError CtrlResult :=
      if error.reason = .conflict then .ok .requeue else .error error
    match pass.statusUpdate with
    | .refused error => ⟨failure error, none, cluster⟩
    | .unconfirmed error => ⟨failure error, some cr.status, { cluster with service := some cr }⟩
    | .stored => ⟨.ok phase.requeue, some cr.status, { cluster with service := some cr }⟩

def provisioned (cr : DataConnectService) : DataConnectService :=
  setCondition .provisioningSucceeded .isTrue "ProvisioningComplete" "Manifests applied successfully" cr

/-- The conditions of a pass that ends with an error, after or before the
manifests were applied. -/
def failed (reason message : String) (notProvisioned : Option String) (cr : DataConnectService) : DataConnectService :=
  let cr := setCondition .ready .isFalse reason message (setCondition .degraded .isTrue reason message cr)
  match notProvisioned with
  | none => provisioned cr
  | some text => setCondition .provisioningSucceeded .isFalse reason text cr

def Pass.http2 (pass : Pass) : Bool × Bool := http2Enabled pass.clusterIngress pass.ingressControllers

def waiting (pass : Pass) (message : String) (cr : DataConnectService) : DataConnectService :=
  checkGRPCGatewaySupport pass.http2 (setCondition .degraded .isFalse "WaitingForDeployments" "No errors"
      (provisioned (setCondition .ready .isFalse "WaitingForDeployments" message cr)))

def allReady (pass : Pass) (cr : DataConnectService) : DataConnectService :=
  checkGRPCGatewaySupport pass.http2 (setCondition .degraded .isFalse "Reconciled" "No errors"
      (provisioned (setCondition .ready .isTrue "Ready" "All resources reconciled and ready" cr)))

/-- A gateway address that could not be looked up is retried earlier. -/
def reportGateway (pass : Pass) (done : Reconciled) : Reconciled :=
  match done.result, pass.gatewayFault with
  | .ok _, some _ => { done with result := .ok (.requeueAfter requeueOnError) }
  | _, _ => done

end Status

section Passes

variable (r : Reconciler) (pass : Pass) (cluster : Cluster) (cr : DataConnectService) (platCfg : PlatformConfig)

/-- The Flight service is registered, and the resource declared ready. -/
def announce : Reconciled :=
  let registered := registerFlightService r pass cluster.store cr
  let cluster := { cluster with store := registered.2 }
  match registered.1 with
  | .error message => updateStatus r pass cluster platCfg .error (failed "FlightRegistrationError" message none)
  | .ok () => reportGateway pass (updateStatus r pass cluster platCfg .ready (allReady pass))

def checkDeployments : Reconciled :=
  match pass.deployments with
  | .error error => updateStatus r pass cluster platCfg .error
      (failed "DeploymentCheckError" s!"listing managed deployments: {error.message}" none)
  | .ok deployments =>
    match pendingDeployments cr.namespaceName cr.uid deployments with
    | [] => announce r pass cluster cr platCfg
    | pending =>
      let names := " ".intercalate pending
      reportGateway pass (updateStatus r pass cluster platCfg .progressing
        (waiting pass s!"Waiting for deployments: [{names}]"))

/-- A kind that the cluster does not know is skipped. -/
def provision : Reconciled :=
  let platCfg := readPlatformConfig r.buildVersion pass.platformConfig
  match validateDatabaseSecret cr.namespaceName pass.databaseSecret with
  | some message => updateStatus r pass cluster platCfg .error (failed "DatabaseSecretMissing" message
        (some "Secret 'dch-database-config' with key secret-config.toml is required"))
  | none =>
    match pass.manifestsFault.filter fun error => error.reason ≠ .noMatch with
    | some error => updateStatus r pass cluster platCfg .error
        (failed "ManifestError" error.message (some "Failed to apply manifests"))
    | none => checkDeployments r pass cluster cr platCfg

/-- A resource that is being deleted goes with its last finalizer. -/
def finalize : Reconciled :=
  if finalizerName ∈ cr.finalizers then
    match pass.cleanupFault <|> pass.updateFault with
    | some error => ⟨.error error, none, cluster⟩
    | none =>
      let remaining := cr.finalizers.filter fun finalizer => finalizer ≠ finalizerName
      ⟨.ok .done, none, { cluster with
        service := if remaining = [] then none else some { cr with finalizers := remaining } }⟩
  else ⟨.ok .done, none, cluster⟩

def reconcile : Reconciled :=
  match cluster.get pass.getFault with
  | .error error => ⟨if error.reason = .notFound then .ok .done else .error error, none, cluster⟩
  | .ok cr =>
    if cr.deleting then finalize pass cluster cr
    else if finalizerName ∈ cr.finalizers then provision r pass cluster cr
    else
      match pass.updateFault with
      | some error => ⟨.error error, none, cluster⟩
      | none =>
        let cr := { cr with finalizers := cr.finalizers ++ [finalizerName] }
        provision r pass { cluster with service := some cr } cr

end Passes

section Written

variable {r : Reconciler} {pass : Pass} {cluster : Cluster} {cr : DataConnectService}
  {platCfg : PlatformConfig} {status : DataConnectServiceStatus}

/-- The statuses that a pass can write. Either every check has succeeded and
the resource is declared ready, or the pass holds the platform's version back
and says that it is not ready. -/
inductive Writes (r : Reconciler) (pass : Pass) (store after : Tables) (cr : DataConnectService)
    (platCfg : PlatformConfig) : DataConnectServiceStatus → Prop where
  | ready {deployments : List Deployment} (hDeployments : pass.deployments = .ok deployments)
      (hPending : pendingDeployments cr.namespaceName cr.uid deployments = [])
      (hRegistered : (registerFlightService r pass store cr).1 = .ok ())
      (hStore : after = (registerFlightService r pass store cr).2) :
      Writes r pass store after cr platCfg (allReady pass (withStatus r cr platCfg .ready)).status
  | held {status : DataConnectServiceStatus} (hPhase : status.phase ≠ .ready)
      (hReady : status.isReady = false)
      (hReleases : status.releases = buildReleases r.buildVersion cr platCfg false) :
      Writes r pass store after cr platCfg status

theorem updateStatus_store (phase : Phase) (mutate : DataConnectService → DataConnectService) :
    (updateStatus r pass cluster platCfg phase mutate).cluster.store = cluster.store := by
  unfold updateStatus
  split
  · rfl
  · dsimp only
    split <;> rfl

theorem service_of_get {fault : Option ApiError} (h : cluster.get fault = .ok cr) : cluster.service = some cr := by
  unfold Cluster.get at h
  split at h
  · cases h
  · split at h
    next hService =>
        rw [hService, Except.ok.inj h]
    · cases h

theorem written_updateStatus {phase : Phase} {mutate : DataConnectService → DataConnectService}
    (h : (updateStatus r pass cluster platCfg phase mutate).written = some status)
    (hService : cluster.service = some cr) :
    status = (mutate (withStatus r cr platCfg phase)).status := by
  unfold updateStatus at h
  cases hGet : cluster.get pass.statusGetFault with
  | error error =>
    rw [hGet] at h
    cases h
  | ok found =>
    have hFound : found = cr := Option.some.inj ((service_of_get hGet).symm.trans hService)
    rw [hGet, hFound] at h
    dsimp only at h
    split at h
    · cases h
    · exact (Option.some.inj h).symm
    · exact (Option.some.inj h).symm

@[simp] theorem written_reportGateway (pass : Pass) (done : Reconciled) :
    (reportGateway pass done).written = done.written ∧ (reportGateway pass done).cluster = done.cluster := by
  unfold reportGateway
  split <;> exact ⟨rfl, rfl⟩

variable (store after : Tables)

theorem held_failed (reason message : String) (notProvisioned : Option String) : Writes r pass store after cr platCfg
      (failed reason message notProvisioned (withStatus r cr platCfg .error)).status := by
  cases notProvisioned with
  | none => exact .held nofun (by simp [failed, provisioned]) rfl
  | some text => exact .held nofun (by simp [failed]) rfl

theorem held_waiting (message : String) : Writes r pass store after cr platCfg
      (waiting pass message (withStatus r cr platCfg .progressing)).status := by
  let marked := setCondition .degraded .isFalse "WaitingForDeployments" "No errors"
    (provisioned (setCondition .ready .isFalse "WaitingForDeployments" message (withStatus r cr platCfg .progressing)))
  have hPhase : marked.status.phase ≠ .ready := nofun
  have hReady : marked.status.isReady = false := by simp [marked, provisioned]
  obtain ⟨hPhase, hReady⟩ := unready_checkGRPCGatewaySupport pass.http2 hPhase hReady
  exact .held hPhase hReady (releases_checkGRPCGatewaySupport ..)

theorem writes_announce (hService : cluster.service = some cr) {deployments : List Deployment}
    (hDeployments : pass.deployments = .ok deployments)
    (hPending : pendingDeployments cr.namespaceName cr.uid deployments = [])
    (h : (announce r pass cluster cr platCfg).written = some status) :
    Writes r pass cluster.store (announce r pass cluster cr platCfg).cluster.store cr platCfg status := by
  unfold announce at h ⊢
  dsimp only at h ⊢
  cases hRegistered : (registerFlightService r pass cluster.store cr).1 with
  | error message =>
    simp only [hRegistered] at h
    rw [written_updateStatus h hService]
    exact held_failed ..
  | ok done =>
    simp only [hRegistered, (written_reportGateway _ _).1] at h
    simp only [(written_reportGateway _ _).2]
    rw [written_updateStatus h hService]
    exact .ready hDeployments hPending hRegistered (updateStatus_store ..)

theorem writes_checkDeployments (hService : cluster.service = some cr)
    (h : (checkDeployments r pass cluster cr platCfg).written = some status) :
    Writes r pass cluster.store (checkDeployments r pass cluster cr platCfg).cluster.store cr platCfg status := by
  unfold checkDeployments at h ⊢
  split at h
  · rw [written_updateStatus h hService]
    exact held_failed ..
  next deployments hDeployments =>
      split at h
      next hPending => exact writes_announce hService hDeployments hPending h
      · rw [(written_reportGateway _ _).1] at h
        rw [written_updateStatus h hService]
        exact held_waiting ..

theorem writes_provision (hService : cluster.service = some cr)
    (h : (provision r pass cluster cr).written = some status) :
    Writes r pass cluster.store (provision r pass cluster cr).cluster.store cr
      (readPlatformConfig r.buildVersion pass.platformConfig) status := by
  unfold provision at h ⊢
  dsimp only at h ⊢
  split at h
  · rw [written_updateStatus h hService]
    exact held_failed ..
  · split at h
    · rw [written_updateStatus h hService]
      exact held_failed ..
    · exact writes_checkDeployments hService h

/-- What a reconcile writes is about the stored resource, which may have got
its finalizer on the way. -/
theorem writes_reconcile (h : (reconcile r pass cluster).written = some status) :
    ∃ cr finalizers, cluster.service = some cr ∧ cr.deleting = false ∧
      Writes r pass cluster.store (reconcile r pass cluster).cluster.store
        { cr with finalizers := finalizers } (readPlatformConfig r.buildVersion pass.platformConfig) status := by
  generalize hDone : reconcile r pass cluster = done at h ⊢
  unfold reconcile at hDone
  split at hDone
  · subst hDone
    cases h
  next cr hGet =>
      have hService : cluster.service = some cr := service_of_get hGet
      refine ⟨cr, ?_⟩
      split at hDone
      · subst hDone
        unfold finalize at h
        split at h
        · split at h <;> cases h
        · cases h
      next hDeleting =>
          have hDeleting : cr.deleting = false := Bool.not_eq_true _ ▸ hDeleting
          split at hDone
          · subst hDone
            exact ⟨cr.finalizers, hService, hDeleting, writes_provision hService h⟩
          · split at hDone
            · subst hDone
              cases h
            · subst hDone
              exact ⟨_, hService, hDeleting, writes_provision rfl h⟩

end Written

section Runs

/-- A reconcile, or someone else creating, changing or deleting the resource. -/
inductive ClusterEvent where
  | reconcile (pass : Pass)
  | put (service : Option DataConnectService)

def Cluster.step (r : Reconciler) (cluster : Cluster) : ClusterEvent → Cluster
  | .reconcile pass => (reconcile r pass cluster).cluster
  | .put service => { cluster with service := service }

variable (r : Reconciler) (pass : Pass) (cluster : Cluster) (cr : DataConnectService)

/-- Only the registration touches the tables of the REST service. -/
theorem store_announce (platCfg : PlatformConfig) :
    (announce r pass cluster cr platCfg).cluster.store = (registerFlightService r pass cluster.store cr).2 := by
  unfold announce
  dsimp only
  split
  · exact updateStatus_store ..
  · rw [(written_reportGateway _ _).2]
    exact updateStatus_store ..

theorem store_checkDeployments (platCfg : PlatformConfig) :
    (checkDeployments r pass cluster cr platCfg).cluster.store = cluster.store ∨
      (checkDeployments r pass cluster cr platCfg).cluster.store =
        (registerFlightService r pass cluster.store cr).2 := by
  unfold checkDeployments
  split
  · exact .inl (updateStatus_store ..)
  · split
    · exact .inr (store_announce ..)
    · left
      rw [(written_reportGateway _ _).2]
      exact updateStatus_store ..

theorem store_provision : (provision r pass cluster cr).cluster.store = cluster.store ∨
      (provision r pass cluster cr).cluster.store = (registerFlightService r pass cluster.store cr).2 := by
  unfold provision
  dsimp only
  split
  · exact .inl (updateStatus_store ..)
  · split
    · exact .inl (updateStatus_store ..)
    · exact store_checkDeployments ..

theorem store_reconcile : (reconcile r pass cluster).cluster.store = cluster.store ∨ ∃ cr,
      (reconcile r pass cluster).cluster.store = (registerFlightService r pass cluster.store cr).2 := by
  unfold reconcile
  split
  · exact .inl rfl
  next cr hGet =>
      split
      · left
        unfold finalize
        split
        · split <;> rfl
        · rfl
      · split
        · exact (store_provision ..).imp_right fun h => ⟨cr, h⟩
        · split
          · exact .inl rfl
          · exact (store_provision ..).imp_right fun h => ⟨_, h⟩

end Runs
end DataConnectHub.Controller
