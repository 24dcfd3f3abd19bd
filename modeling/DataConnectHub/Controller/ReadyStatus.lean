import DataConnectHub.Controller.FlightRegistration

/-! What a written status can be relied on for. The version of the platform is
recorded with the intention to become ready, before the ingress of the cluster
is looked at. The deployments are judged by the counters of their status, which
do not say how many replicas were asked for. -/
namespace DataConnectHub.Controller

open Serde Interaction Rest

section Handshake

/-- In a written status the platform has another version than in the stored
one only if the status is ready, and then the version read in that pass. A
status without an entry of the platform has the empty version. -/
def Handshake (r : Reconciler) (cluster : Cluster) : ClusterEvent → Prop
  | .put _ => True
  | .reconcile pass => ∀ stored ∈ cluster.service, ∀ status ∈ (reconcile r pass cluster).written,
      status.platformVersion ≠ stored.status.platformVersion → status.isReady = true ∧
        status.platformVersion = (readPlatformConfig r.buildVersion pass.platformConfig).platformVersion

instance (r : Reconciler) (cluster : Cluster) : (event : ClusterEvent) → Decidable (Handshake r cluster event)
  | .put _ => inferInstanceAs (Decidable True)
  | .reconcile _ => inferInstanceAs (Decidable (∀ stored ∈ _, ∀ status ∈ _, _ → _))

/-- The pass reads the stored version, or else it reads some version, and the
ingress is not known to be without HTTP/2. -/
def ReadinessStands (r : Reconciler) (cluster : Cluster) : ClusterEvent → Prop
  | .put _ => True
  | .reconcile pass => ∀ stored ∈ cluster.service,
      let version := (readPlatformConfig r.buildVersion pass.platformConfig).platformVersion
      version ≠ stored.status.platformVersion → version ≠ "" ∧ ¬http2Disabled pass.http2

instance (r : Reconciler) (cluster : Cluster) : (event : ClusterEvent) → Decidable (ReadinessStands r cluster event)
  | .put _ => inferInstanceAs (Decidable True)
  | .reconcile _ => inferInstanceAs (Decidable (∀ stored ∈ _, _ → _))

theorem isReady_allReady {pass : Pass} (h : ¬http2Disabled pass.http2) (cr : DataConnectService) :
    (allReady pass cr).status.isReady = true := by
  rw [allReady, (ready_checkGRPCGatewaySupport h _).2]
  simp [provisioned]

theorem step_handshake {r : Reconciler} {cluster : Cluster} {event : ClusterEvent}
    (hStands : ReadinessStands r cluster event) : Handshake r cluster event := by
  cases event with
  | put service => trivial
  | reconcile pass =>
    intro stored hService status hWritten hChanged
    obtain ⟨found, finalizers, hFound, -, hWrites⟩ := writes_reconcile hWritten
    obtain rfl : found = stored := Option.some.inj (hFound.symm.trans hService)
    cases hWrites with
    | held hPhase hReady hReleases =>
      -- the stored version is kept, unless none was read
      rw [platformVersion_buildReleases hReleases] at hChanged
      split at hChanged
      next hNone => exact absurd (by simpa using hNone) (hStands _ hService hChanged).1
      · exact absurd rfl hChanged
    | ready hDeployments hPending hRegistered hAfter =>
      rw [platformVersion_buildReleases (releases_checkGRPCGatewaySupport ..), if_pos (.inl rfl)] at hChanged ⊢
      exact ⟨isReady_allReady (hStands _ hService hChanged).2 _, rfl⟩

/-- In every run in which a pass that reads another version than the stored one reads
one, with an ingress that is not known to be without HTTP/2, the platform's version
advances with readiness. -/
theorem platform_version_handshake (r : Reconciler) (initial : Cluster) (events : List ClusterEvent)
    (hStands : Throughout (Cluster.step r) (ReadinessStands r) initial events) :
    Throughout (Cluster.step r) (Handshake r) initial events := by
  let Holds (_ : Cluster) : Prop := True
  have hStep {cluster : Cluster} {event : ClusterEvent} (_ : Holds cluster)
      (_ : ReadinessStands r cluster event) : Holds (cluster.step r event) := trivial
  have hTurn {cluster : Cluster} {event : ClusterEvent} (_ : Holds cluster)
      (hEvent : ReadinessStands r cluster event) : Handshake r cluster event := step_handshake hEvent
  exact hStands.imp hStep hTurn trivial

/-- The platform moves on while the ingress is without HTTP/2. -/
def upgradeWithoutHTTP2 : List ClusterEvent :=
  [.reconcile { smoothPass [] ["postgres"] "flight-1" with clusterIngress := .ok ∅ }]

/-- The status records the new version and is not ready. -/
theorem platform_version_advances_unready : ¬Throughout (Cluster.step sampleReconciler) (Handshake sampleReconciler)
      ⟨some sampleService, emptyStore⟩ upgradeWithoutHTTP2 := by
  decide +kernel

theorem platform_version_handshake_sample : (∃ cr ∈ (connectorEnabled.foldl (Cluster.step sampleReconciler)
      ⟨some sampleService, emptyStore⟩).service, cr.status.platformVersion = "2.20.0") ∧
    Throughout (Cluster.step sampleReconciler) (Handshake sampleReconciler)
      ⟨some sampleService, emptyStore⟩ connectorEnabled :=
  ⟨by decide +kernel, platform_version_handshake sampleReconciler ⟨some sampleService, emptyStore⟩
    connectorEnabled (by decide +kernel)⟩

/-- Whatever a reconcile meets, the phase that it writes says ready just if the condition
does, and neither does while the ingress is known to be without HTTP/2. -/
theorem ready_phase_agrees (r : Reconciler) (pass : Pass) (cluster : Cluster) {status : DataConnectServiceStatus}
    (h : (reconcile r pass cluster).written = some status) :
    (status.phase = .ready ↔ status.isReady = true) ∧ (status.isReady = true → ¬http2Disabled pass.http2) := by
  obtain ⟨cr, finalizers, -, -, hWrites⟩ := writes_reconcile h
  cases hWrites with
  | held hPhase hReady => simp [hPhase, hReady]
  | ready =>
    by_cases hDisabled : http2Disabled pass.http2
    · simp [allReady, notReady_checkGRPCGatewaySupport hDisabled]
    · refine ⟨iff_of_true ?_ (isReady_allReady hDisabled _), fun _ => hDisabled⟩
      exact (ready_checkGRPCGatewaySupport hDisabled _).1

theorem ready_phase_agrees_sample : ∃ status, (reconcile sampleReconciler (smoothPass [] ["postgres"] "flight-1")
    ⟨some sampleService, emptyStore⟩).written = some status ∧ (status.phase = .ready ↔ status.isReady = true) :=
  ⟨_, rfl, (ready_phase_agrees sampleReconciler (smoothPass [] ["postgres"] "flight-1")
    ⟨some sampleService, emptyStore⟩ rfl).1⟩

end Handshake

section Workloads

/-- The replicas asked for, one if nothing is said. -/
def Deployment.desired (deployment : Deployment) : Int := deployment.specReplicas.getD 1

/-- The latest generation is observed, and runs in at least the replicas asked
for. -/
def Deployment.IsUp (deployment : Deployment) : Prop :=
  deployment.observedGeneration = deployment.generation ∧
    deployment.desired ≤ deployment.updatedReplicas ∧ deployment.desired ≤ deployment.readyReplicas

def Deployment.BelongsTo (deployment : Deployment) (cr : DataConnectService) : Prop :=
  deployment.isManaged = true ∧ deployment.isOwnedBy cr.uid = true

variable {r : Reconciler} {cr : DataConnectService} {deployments : List Deployment}

instance (deployment : Deployment) : Decidable deployment.IsUp := inferInstanceAs (Decidable (_ ∧ _ ∧ _))

instance (deployment : Deployment) : Decidable (deployment.BelongsTo cr) := inferInstanceAs (Decidable (_ ∧ _))

/-- A deployment whose counters agree is up if it has as many replicas as were
asked for. -/
theorem Deployment.isUp_of_isReady {deployment : Deployment} (h : deployment.isReady = true) :
    deployment.IsUp ↔ deployment.desired ≤ deployment.replicas := by
  simp only [Deployment.isReady, Bool.and_eq_true, beq_iff_eq] at h
  obtain ⟨⟨hReady, hUpdated⟩, hGeneration⟩ := h
  unfold Deployment.IsUp
  rw [hReady, hUpdated, hGeneration]
  simp

theorem pendingDeployments_eq_nil : pendingDeployments cr.namespaceName cr.uid deployments = [] ↔
      ∀ deployment ∈ deployments, deployment.BelongsTo cr → deployment.namespaceName = cr.namespaceName →
        deployment.isReady = true := by
  simp only [pendingDeployments, Deployment.BelongsTo, List.map_eq_nil_iff, List.filter_eq_nil_iff,
    List.mem_filter, Bool.and_eq_true, beq_iff_eq, Bool.not_eq_true', and_imp]
  refine forall₂_congr fun deployment _ => ?_
  constructor
  · intro h hManaged hOwned hNamespace
    by_contra hReady
    exact h hNamespace hManaged ⟨hOwned, Bool.not_eq_true _ ▸ hReady⟩
  · rintro h hNamespace hManaged ⟨hOwned, hReady⟩
    exact Bool.false_ne_true (hReady.symm.trans (h hManaged hOwned hNamespace))

/-- A pass in which every check succeeds registers a service without
connectors in empty tables. -/
theorem registered_smoothPass (r : Reconciler) (cr : DataConnectService) (deployments : List Deployment)
    (id : String) : (registerFlightService r (smoothPass deployments [] id) emptyStore cr).1 = .ok () := by
  obtain ⟨buildVersion, client⟩ := r
  cases client with
  | none => rfl
  | some api =>
    let flight := flightServiceRegistration cr
    let attempt : Attempt := Attempt.withConnectors
      ⟨⟨id, "2026-01-01T00:00:00Z", "2026-01-01T00:00:00Z"⟩, fun _ => false, sampleReply []⟩ (.ok [])
    have hAsked : attempt.reply (.getSupportedConnectors flight.internalUrl api.service.globalTenantId) = .ok [] := rfl
    obtain ⟨created, hCreated⟩ : ∃ created, (conduct api.service.globalTenantId
        (fun _ => attempt.outcome) (registration api.service api.texts flight) emptyStore).result =
          .ok ⟨201, .flightService created⟩ :=
      registered_empty api.service api.texts flight attempt.stamp hAsked
    have hAnswered := registerFlightService_answered api cr.namespaceName flight (fun _ => attempt) emptyStore
    have hResult : (api.registerFlightService cr.namespaceName flight
        (smoothPass deployments [] id).delivery emptyStore).1 = .ok () := by
      change (api.registerFlightService cr.namespaceName flight (.answered fun _ => attempt) emptyStore).1 = _
      rw [hAnswered]
      dsimp only
      rw [hCreated]
      rfl
    unfold registerFlightService
    dsimp only
    rw [hResult]

theorem announce_smoothPass (r : Reconciler) (cr : DataConnectService) (deployments : List Deployment)
    (id : String) (platCfg : PlatformConfig) :
    ∃ status, (announce r (smoothPass deployments [] id) ⟨some cr, emptyStore⟩ cr platCfg).written =
      some status ∧ status.phase = .ready := by
  unfold announce
  dsimp only
  rw [registered_smoothPass]
  exact ⟨_, rfl, rfl⟩

theorem provision_smoothPass (r : Reconciler)
    (hPending : pendingDeployments cr.namespaceName cr.uid deployments = []) (id : String) :
    ∃ status, (provision r (smoothPass deployments [] id) ⟨some cr, emptyStore⟩ cr).written = some status ∧
      status.phase = .ready := by
  have hSecret : validateDatabaseSecret cr.namespaceName (smoothPass deployments [] id).databaseSecret = none := by
    simp only [smoothPass, validateDatabaseSecret, annotationValue_insert_self]
    exact if_neg (by decide)
  unfold provision
  dsimp only
  rw [hSecret]
  change ∃ status, (checkDeployments _ _ _ _ _).written = some status ∧ _
  unfold checkDeployments
  simp only [smoothPass, hPending]
  exact announce_smoothPass ..

/-- Such a pass declares the resource ready when no deployment is pending. -/
theorem ready_smoothPass (r : Reconciler) (hDeleting : cr.deleting = false)
    (hPending : pendingDeployments cr.namespaceName cr.uid deployments = []) (id : String) :
    ∃ status, (reconcile r (smoothPass deployments [] id) ⟨some cr, emptyStore⟩).written = some status ∧
      status.phase = .ready := by
  have hGet : Cluster.get ⟨some cr, emptyStore⟩ (smoothPass deployments [] id).getFault = .ok cr := rfl
  unfold reconcile
  rw [hGet]
  dsimp only
  rw [if_neg (by simp [hDeleting])]
  split
  · exact provision_smoothPass r hPending id
  · let added : DataConnectService := { cr with finalizers := cr.finalizers ++ [finalizerName] }
    have hStill : pendingDeployments added.namespaceName added.uid deployments = [] := hPending
    exact provision_smoothPass r hStill id

/-- A resource that is declared ready is not being deleted, and the counters of
its deployments agree. -/
theorem counters_of_ready {pass : Pass} {cluster : Cluster} {status : DataConnectServiceStatus}
    (hService : cluster.service = some cr) (hDeployments : pass.deployments = .ok deployments)
    (hWritten : (reconcile r pass cluster).written = some status) (hPhase : status.phase = .ready) :
    cr.deleting = false ∧ ∀ deployment ∈ deployments, deployment.BelongsTo cr →
      deployment.namespaceName = cr.namespaceName → deployment.isReady = true := by
  obtain ⟨found, finalizers, hFound, hLive, hWrites⟩ := writes_reconcile hWritten
  obtain rfl : found = cr := Option.some.inj (hFound.symm.trans hService)
  cases hWrites with
  | held hNotReady _ _ => exact absurd hPhase hNotReady
  | ready hListed hPending hRegistered hStore =>
    obtain rfl := Except.ok.inj (hListed.symm.trans hDeployments)
    exact ⟨hLive, pendingDeployments_eq_nil.1 hPending⟩

/-- A reconcile of the resource declares it ready only when its deployments are
up, exactly if it is being deleted, or a deployment is visibly pending, or
every deployment has at least the replicas that were asked for. Deployments of
other namespaces are never looked at. -/
theorem ready_deployments_up_iff (r : Reconciler) (cr : DataConnectService) (deployments : List Deployment) :
    (∀ pass cluster status, cluster.service = some cr → pass.deployments = .ok deployments →
      (reconcile r pass cluster).written = some status → status.phase = .ready →
        ∀ deployment ∈ deployments, deployment.BelongsTo cr → deployment.IsUp) ↔
    cr.deleting = true ∨ (∃ deployment ∈ deployments, deployment.BelongsTo cr ∧
        deployment.namespaceName = cr.namespaceName ∧ deployment.isReady = false) ∨
      ∀ deployment ∈ deployments, deployment.BelongsTo cr →
        if deployment.namespaceName = cr.namespaceName then deployment.desired ≤ deployment.replicas
        else deployment.IsUp := by
  constructor
  · intro h
    by_contra hNone
    simp only [not_or, Bool.not_eq_true] at hNone
    obtain ⟨hDeleting, hNotPending, hShort⟩ := hNone
    have hReady : ∀ deployment ∈ deployments, deployment.BelongsTo cr →
        deployment.namespaceName = cr.namespaceName → deployment.isReady = true := by
      intro deployment hDeployment hBelongs hNamespace
      by_contra hCounters
      exact hNotPending ⟨deployment, hDeployment, hBelongs, hNamespace, Bool.not_eq_true _ ▸ hCounters⟩
    obtain ⟨status, hWritten, hPhase⟩ :=
      ready_smoothPass r hDeleting (pendingDeployments_eq_nil.2 hReady) "flight-1"
    refine hShort fun deployment hDeployment hBelongs => ?_
    have hUp := h _ ⟨some cr, emptyStore⟩ status rfl rfl hWritten hPhase deployment hDeployment hBelongs
    split
    next hNamespace =>
        exact (Deployment.isUp_of_isReady (hReady deployment hDeployment hBelongs hNamespace)).1 hUp
    · exact hUp
  · intro hCases pass cluster status hService hDeployments hWritten hPhase deployment hDeployment hBelongs
    obtain ⟨hLive, hReady⟩ := counters_of_ready hService hDeployments hWritten hPhase
    rcases hCases with hDeleting | ⟨other, hOther, hOtherBelongs, hNamespace, hCounters⟩ | hEnough
    · exact absurd hDeleting (by simp [hLive])
    · exact absurd (hReady other hOther hOtherBelongs hNamespace) (by simp [hCounters])
    · have hDesired := hEnough deployment hDeployment hBelongs
      split at hDesired
      next hNamespace =>
          exact (Deployment.isUp_of_isReady (hReady deployment hDeployment hBelongs hNamespace)).2 hDesired
      · exact hDesired

/-- The deployment of the REST service as it looks before its replica set has
created the first pod. -/
def starting : Deployment :=
  { namespaceName := "dch", name := "dch-hub-rest"
    labels := (∅ : StringMap String).insert labelManagedBy managedByDCHService
    owners := ["uid-1"], generation := 1, specReplicas := some 1, observedGeneration := 1
    replicas := 0, readyReplicas := 0, updatedReplicas := 0 }

/-- The resource is declared ready while no replica runs. -/
theorem ready_without_replicas : starting.BelongsTo sampleService ∧ ¬starting.IsUp ∧
      (reconcile sampleReconciler (smoothPass [starting] ["postgres"] "flight-1")
        ⟨some sampleService, emptyStore⟩).written.map (fun status => status.phase) = some .ready := by
  decide +kernel

end Workloads
end DataConnectHub.Controller
