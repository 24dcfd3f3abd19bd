import DataConnectHub.Flight.Tls

/-! The TLS profile of the cluster on its way into the Flight service. The
controller writes the minimum version and the cipher suites into the ConfigMap
of the service, which reads them back when it starts. What the framework makes
of a profile, and the two TOML libraries, are parameters. -/
namespace DataConnectHub.Controller

open Serde RustStd Flight

structure TLSProfileSpec where
  minTLSVersion : String
  ciphers : List String

/-- What the framework and the TLS library of the controller make of a
profile. The minimum is passed on as it is, and only listed ciphers have ids. -/
structure TlsFramework where
  minVersionFromSpec : TLSProfileSpec → String
  suiteId : String → Option UInt16
  configFromProfile : TLSProfileSpec → List UInt16
  cipherSuiteName : UInt16 → String
  minVersionFromSpec_name (spec : TLSProfileSpec) (version : TlsVersion) :
    spec.minTLSVersion = version.name → minVersionFromSpec spec = version.name
  listed_of_configFromProfile (spec : TLSProfileSpec) (id : UInt16) :
    id ∈ configFromProfile spec → ∃ name ∈ spec.ciphers, suiteId name = some id

structure GoToml where
  unmarshal : String → Except String TomlDocument
  marshal : TomlDocument → Except String String

/-- A rendered resource. Its data are missing, or may not be strings. -/
structure Manifest where
  kind : String
  name : String
  labels : StringMap String
  data : Except String (Option (StringMap String))

def kindConfigMap : String := "ConfigMap"
def labelAppName : String := "app.kubernetes.io/name"
def keyConfigTOML : String := "config.toml"

section Projection

variable (framework : TlsFramework) (toml : GoToml)

/-- There is nothing to configure without a document. -/
def parseConfigMapTOML (obj : Manifest) : Except String (Option (TomlDocument × StringMap String)) :=
  match obj.data with
  | .error error => .error s!"reading ConfigMap data: {error}"
  | .ok none => .ok none
  | .ok (some data) =>
    match data.lookup keyConfigTOML with
    | none => .ok none
    | some tomlText =>
      match toml.unmarshal tomlText with
      | .error error => .error s!"parsing config.toml: {error}"
      | .ok config => .ok (some (config, data))

def setConfigMapTOML (obj : Manifest) (config : TomlDocument) (data : StringMap String) : Except String Manifest :=
  match toml.marshal config with
  | .error error => .error s!"marshaling config.toml: {error}"
  | .ok out => .ok { obj with data := .ok (some (data.insert keyConfigTOML out)) }

/-- The names of the suites below TLS 1.3. -/
def projectedCiphers (spec : TLSProfileSpec) : List String :=
  if spec.minTLSVersion ≠ "VersionTLS13" then
    ((framework.configFromProfile spec).map framework.cipherSuiteName).filter fun name => name ≠ ""
  else []

def projectedTls (minVersion : String) (cipherSuites : List String) (tls : StringMap TomlItem) : StringMap TomlItem :=
  let tls := tls.insert "min_version" (.scalar minVersion)
  if cipherSuites = [] then tls.erase "ciphers" else tls.insert "ciphers" (.scalars cipherSuites)

/-- Other resources, and configurations without a TLS section, stay as they
are. -/
def setManifestTLSProfile (flightName minVersion : String) (cipherSuites : List String) (obj : Manifest) :
    Except String Manifest :=
  if obj.kind ≠ kindConfigMap ∨ (obj.labels.lookup labelAppName).getD "" ≠ flightName then .ok obj
  else
    match parseConfigMapTOML toml obj with
    | .error error => .error s!"parsing flight-service ConfigMap \"{obj.name}\": {error}"
    | .ok none => .ok obj
    | .ok (some (config, data)) =>
      match config.lookup "tls" with
      | some (.table tls) =>
        let config := config.insert "tls" (.table (projectedTls minVersion cipherSuites tls))
        mapErr (fun error => s!"updating flight-service ConfigMap \"{obj.name}\": {error}")
          (setConfigMapTOML toml obj config data)
      | _ => .ok obj

def setConfigMapFlightTLSProfile (resources : List Manifest) (flightName : String) (spec : TLSProfileSpec) :
    Except String (List Manifest) :=
  let cipherSuites := projectedCiphers framework spec
  if spec.minTLSVersion ≠ "VersionTLS13" ∧ spec.ciphers ≠ [] ∧ cipherSuites = [] then
    let ciphers := " ".intercalate spec.ciphers
    .error s!"flight TLS profile has no usable cipher suites for TLS <= 1.2: [{ciphers}]"
  else
    resources.mapM (setManifestTLSProfile toml flightName (framework.minVersionFromSpec spec) cipherSuites)

end Projection

section Policy

variable {framework : TlsFramework} {toml : GoToml}

/-- A ConfigMap of the Flight service with a TLS section. -/
def Manifest.HasTlsSection (toml : GoToml) (flightName : String) (obj : Manifest) : Prop :=
  obj.kind = kindConfigMap ∧ (obj.labels.lookup labelAppName).getD "" = flightName ∧
    ∃ config data tls, parseConfigMapTOML toml obj = .ok (some (config, data)) ∧ config.lookup "tls" = some (.table tls)

/-- The text that the Flight service is started with. -/
def Manifest.configText (obj : Manifest) : Option String :=
  match obj.data with
  | .ok (some data) => data.lookup keyConfigTOML
  | _ => none

variable {minVersion : String} {cipherSuites : List String} {flightName : String} {spec : TLSProfileSpec}

/-- What the service reads back from a projected section. -/
theorem policy_projectedTls {items : StringMap TomlItem} {tls : TlsConfig}
    (hMin : TlsConfig.textField (projectedTls minVersion cipherSuites items) "min_version" = some tls.minVersion)
    (hCiphers : TlsConfig.listField (projectedTls minVersion cipherSuites items) "ciphers" = some tls.ciphers) :
    tls.minVersion = some minVersion ∧ tls.ciphers = if cipherSuites = [] then none else some cipherSuites := by
  have hOther : "min_version" ≠ "ciphers" := by decide
  unfold projectedTls at hMin hCiphers
  dsimp only at hMin hCiphers
  split at hMin
  next hNone =>
      rw [if_pos hNone] at hCiphers ⊢
      simp [TlsConfig.textField, AList.lookup_erase_ne hOther] at hMin
      simp [TlsConfig.listField] at hCiphers
      exact ⟨hMin.symm, hCiphers.symm⟩
  next hSome =>
      rw [if_neg hSome] at hCiphers ⊢
      simp [TlsConfig.textField, AList.lookup_insert_ne hOther] at hMin
      simp [TlsConfig.listField] at hCiphers
      exact ⟨hMin.symm, hCiphers.symm⟩

/-- The section of a Flight service is written with the projected policy. -/
theorem written_of_setManifestTLSProfile {obj rendered : Manifest} (hTls : obj.HasTlsSection toml flightName)
    (h : setManifestTLSProfile toml flightName minVersion cipherSuites obj = .ok rendered) :
    ∃ config text items, rendered.configText = some text ∧ toml.marshal config = .ok text ∧
      config.lookup "tls" = some (.table (projectedTls minVersion cipherSuites items)) := by
  obtain ⟨hKind, hLabel, config, data, items, hParsed, hTable⟩ := hTls
  unfold setManifestTLSProfile at h
  rw [if_neg (by simp [hKind, hLabel]), hParsed] at h
  simp only [hTable, mapErr_eq_ok] at h
  unfold setConfigMapTOML at h
  split at h
  · cases h
  next text hMarshal =>
      rw [← Except.ok.inj h]
      exact ⟨_, text, items, by simp [Manifest.configText], hMarshal, by simp⟩

/-- A profile that lists no ciphers projects none. -/
theorem projectedCiphers_unlisted (h : spec.ciphers = []) : projectedCiphers framework spec = [] := by
  have hNone : framework.configFromProfile spec = [] := by
    refine List.eq_nil_iff_forall_not_mem.2 fun id hId => ?_
    obtain ⟨name, hName, _⟩ := framework.listed_of_configFromProfile spec id hId
    rw [h] at hName
    cases hName
  simp [projectedCiphers, hNone]

/-- Unless the projection is refused, what it writes for a profile with
ciphers is their list, or the minimum is TLS 1.3. -/
theorem projected_or_tls13 {resources rendered : List Manifest}
    (h : setConfigMapFlightTLSProfile framework toml resources flightName spec = .ok rendered)
    (hListed : spec.ciphers ≠ []) :
    projectedCiphers framework spec ≠ [] ∨ spec.minTLSVersion = TlsVersion.tls13.name := by
  unfold setConfigMapFlightTLSProfile at h
  dsimp only at h
  split at h
  · cases h
  next hAccepted =>
      by_cases hTop : spec.minTLSVersion = "VersionTLS13"
      · exact .inr hTop
      · exact .inl fun hNone => hAccepted ⟨hTop, hListed, hNone⟩

/-- Unless the reconcile is refused, every ConfigMap of the Flight service with
a TLS section is written such that a service that starts with it enforces the
profile. The secret may add certificates, but no policy. -/
theorem tls_policy_enforced (framework : TlsFramework) (toml : GoToml) {Certificate PrivateKey : Type}
    (runtime : TlsRuntime Certificate PrivateKey)
    (hSuites : (runtime.cipherSuites.map SupportedCipherSuite.suite).Nodup)
    (parse : String → Option TomlDocument)
    (hParse : ∀ document text, toml.marshal document = .ok text → parse text = some document)
    (secret : Option String) (hSecret : ∀ text ∈ secret, ∀ overlay ∈ parse text, SetsNoPolicy overlay)
    (resources : List Manifest) (flightName : String) (spec : TLSProfileSpec) {rendered : List Manifest}
    (h : setConfigMapFlightTLSProfile framework toml resources flightName spec = .ok rendered) :
    List.Forall₂ (fun before after => before.HasTlsSection toml flightName → ∃ text, after.configText = some text ∧
        ∀ tls builder configured, loadConfig parse text secret = some tls →
          configureTls runtime builder tls = .ok configured →
            ∃ minimum : TlsVersion, framework.minVersionFromSpec spec = minimum.name ∧
              (∀ version : TlsVersion, spec.minTLSVersion = version.name → version = minimum) ∧
              Enforces runtime minimum (if spec.ciphers = [] then none else some (projectedCiphers framework spec))
                (startServer configured)) resources rendered := by
  have hWritten : List.Forall₂ (fun before after => setManifestTLSProfile toml flightName
      (framework.minVersionFromSpec spec) (projectedCiphers framework spec) before = .ok after)
      resources rendered := by
    unfold setConfigMapFlightTLSProfile at h
    dsimp only at h
    split at h
    · cases h
    · exact mapM_eq_ok h
  refine hWritten.imp fun before after hSet hTls => ?_
  obtain ⟨config, text, items, hText, hMarshal, hTable⟩ := written_of_setManifestTLSProfile hTls hSet
  refine ⟨text, hText, fun tls builder configured hLoad hConfigured => ?_⟩
  obtain ⟨hMin, hCiphers⟩ := policy_of_loadConfig (hParse config text hMarshal) hTable hSecret hLoad
  obtain ⟨hMin, hCiphers⟩ := policy_projectedTls hMin hCiphers
  obtain ⟨minimum, hName, hEnforces⟩ := enforces_of_configureTls hSuites hMin hConfigured
  have hKnown (version : TlsVersion) (hVersion : spec.minTLSVersion = version.name) : version = minimum :=
    TlsVersion.name_injective ((framework.minVersionFromSpec_name spec version hVersion).symm.trans hName.symm)
  refine ⟨minimum, hName.symm, hKnown, ?_⟩
  rw [hCiphers] at hEnforces
  by_cases hListed : spec.ciphers = []
  · rw [if_pos (projectedCiphers_unlisted hListed)] at hEnforces
    rwa [if_pos hListed]
  · rw [if_neg hListed]
    rcases projected_or_tls13 h hListed with hProjected | hTop
    · rwa [if_neg hProjected] at hEnforces
    · obtain rfl := hKnown .tls13 hTop
      exact hEnforces.of_tls13 _

end Policy

section Samples

/-- A framework that knows two suites, for examples. -/
def sampleSuiteId (name : String) : Option UInt16 :=
  if name = "ECDHE-ECDSA-AES128-GCM-SHA256" then some 0xC02B
  else if name = "ECDHE-ECDSA-AES256-GCM-SHA384" then some 0xC02C
  else none

def sampleFramework : TlsFramework where
  minVersionFromSpec spec := spec.minTLSVersion
  suiteId := sampleSuiteId
  configFromProfile spec := spec.ciphers.filterMap sampleSuiteId
  cipherSuiteName id :=
    if id = 0xC02B then "TLS_ECDHE_ECDSA_WITH_AES_128_GCM_SHA256"
    else "TLS_ECDHE_ECDSA_WITH_AES_256_GCM_SHA384"
  minVersionFromSpec_name _ _ := id
  listed_of_configFromProfile _ _ := List.mem_filterMap.1

def sampleRuntime : TlsRuntime Unit Unit where
  printable _ := true
  read _ := .ok ""
  pemFileIter _ := .ok [.ok ()]
  pemKeyFile _ := .ok ()
  cipherSuites := [.tls13 0x1301, .tls12 0xC02C, .tls12 0xC02B]
  asStr id :=
    if id = 0x1301 then some "TLS13_AES_128_GCM_SHA256"
    else if id = 0xC02B then some "TLS_ECDHE_ECDSA_WITH_AES_128_GCM_SHA256"
    else some "TLS_ECDHE_ECDSA_WITH_AES_256_GCM_SHA384"
  withProtocolVersions _ _ := .ok ()
  withSingleCert _ _ := .ok ()
  tlsConfig _ := .ok ()

def sampleTlsSection : StringMap TomlItem :=
  ((∅ : StringMap TomlItem).insert "key_file" (.scalar "/etc/tls/private/tls.key")).insert
    "cert_file" (.scalar "/etc/tls/private/tls.crt")

def sampleDocument : TomlDocument := (∅ : TomlDocument).insert "tls" (.table sampleTlsSection)

def projectedDocument : TomlDocument :=
  sampleDocument.insert "tls"
    (.table (projectedTls "VersionTLS12" ["TLS_ECDHE_ECDSA_WITH_AES_128_GCM_SHA256"] sampleTlsSection))

def sampleText : String :=
  "[tls]\ncert_file = \"/etc/tls/private/tls.crt\"\nkey_file = \"/etc/tls/private/tls.key\"\n"

def projectedText : String :=
  "[tls]\ncert_file = '/etc/tls/private/tls.crt'\nciphers = ['TLS_ECDHE_ECDSA_WITH_AES_128_GCM_SHA256']\n" ++
    "key_file = '/etc/tls/private/tls.key'\nmin_version = 'VersionTLS12'\n"

/-- Libraries that know the two texts. -/
def sampleToml : GoToml where
  unmarshal text := if text = sampleText then .ok sampleDocument else .error "unknown text"
  marshal document := if document = projectedDocument then .ok projectedText else .error "unknown document"

def sampleParse (text : String) : Option TomlDocument :=
  if text = projectedText then some projectedDocument else none

theorem sampleParse_marshal (document : TomlDocument) (text : String)
    (h : sampleToml.marshal document = .ok text) : sampleParse text = some document := by
  simp only [sampleToml] at h
  split at h
  next hDocument => rw [← Except.ok.inj h, hDocument, sampleParse, if_pos rfl]
  · cases h

def sampleConfigMap (text : String) : Manifest :=
  { kind := kindConfigMap, name := "dch-hub-flight-config"
    labels := (∅ : StringMap String).insert labelAppName "hub-flight"
    data := .ok (some ((∅ : StringMap String).insert keyConfigTOML text)) }

def projectedTlsConfig : TlsConfig :=
  ⟨some "/etc/tls/private/tls.crt", some "/etc/tls/private/tls.key", some "VersionTLS12",
    some ["TLS_ECDHE_ECDSA_WITH_AES_128_GCM_SHA256"]⟩

theorem tls_policy_enforced_sample : loadConfig sampleParse projectedText none = some projectedTlsConfig ∧
      ∃ configured, configureTls sampleRuntime ⟨none⟩ projectedTlsConfig = .ok configured ∧
      ∃ minimum : TlsVersion, "VersionTLS12" = minimum.name ∧
        Enforces sampleRuntime minimum (some ["TLS_ECDHE_ECDSA_WITH_AES_128_GCM_SHA256"]) (startServer configured) := by
  have hSet : setConfigMapFlightTLSProfile sampleFramework sampleToml [sampleConfigMap sampleText] "hub-flight"
      ⟨"VersionTLS12", ["ECDHE-ECDSA-AES128-GCM-SHA256"]⟩ = .ok [sampleConfigMap projectedText] := by
    rfl
  have hTls : (sampleConfigMap sampleText).HasTlsSection sampleToml "hub-flight" :=
    ⟨rfl, rfl, sampleDocument, _, sampleTlsSection, rfl, rfl⟩
  cases tls_policy_enforced sampleFramework sampleToml sampleRuntime (by decide) sampleParse
    sampleParse_marshal none nofun _ "hub-flight" _ hSet with
  | cons hWritten _ =>
    obtain ⟨text, hText, hStarted⟩ := hWritten hTls
    obtain rfl : text = projectedText := (Option.some.inj hText).symm
    have hLoad : loadConfig sampleParse projectedText none = some projectedTlsConfig := by decide +kernel
    have hConfigured : configureTls sampleRuntime ⟨none⟩ projectedTlsConfig = .ok (⟨none⟩,
        some ⟨[.tls12, .tls13], [.tls12 0xC02B, .tls13 0x1301], [()], (), ["h2"]⟩) := rfl
    obtain ⟨minimum, hName, -, hEnforces⟩ := hStarted _ _ _ hLoad hConfigured
    exact ⟨hLoad, _, hConfigured, minimum, hName, hEnforces⟩

end Samples
end DataConnectHub.Controller
