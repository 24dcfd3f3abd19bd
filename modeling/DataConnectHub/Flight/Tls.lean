import DataConnectHub.RustStd.DebugFormat
import DataConnectHub.RustStd.Result
import DataConnectHub.Serde.Codec
import Mathlib.Data.List.Nodup

/-! The TLS listener of the Flight service. Its configuration is read from a
TOML document with a secret merged over it. When a minimum version is
configured, the service builds an acceptor that enforces it or does not start.
Only without a minimum version does it use the defaults of its libraries, or
no TLS at all. -/
namespace DataConnectHub.Flight

open Serde RustStd List

section Configuration

/-- What a key of a table is set to: a scalar by its text, a list of scalars,
or anything else as it is written. -/
inductive TomlItem where
  | scalar (text : String)
  | scalars (texts : List String)
  | nested (source : String)
  deriving DecidableEq, Repr

inductive TomlEntry where
  | table (items : StringMap TomlItem)
  | other (source : String)
  deriving DecidableEq

abbrev TomlDocument := StringMap TomlEntry

structure TlsConfig where
  certFile : Option String
  keyFile : Option String
  minVersion : Option String
  ciphers : Option (List String)
  deriving DecidableEq, Repr

namespace TlsConfig

def validate (tls : TlsConfig) : Except String Unit :=
  match tls.certFile, tls.keyFile with
  | some _, none | none, some _ =>
    .error "Both tls.cert_file and tls.key_file must be provided to enable TLS"
  | _, _ => .ok ()

def textField (items : StringMap TomlItem) (key : String) : Option (Option String) :=
  match items.lookup key with
  | none => some none
  | some (.scalar text) => some (some text)
  | some _ => none

def listField (items : StringMap TomlItem) (key : String) : Option (Option (List String)) :=
  match items.lookup key with
  | none => some none
  | some (.scalars texts) => some (some texts)
  | some _ => none

/-- A missing section has the default values. -/
def ofEntry : Option TomlEntry → Option TlsConfig
  | none => some ⟨none, none, none, none⟩
  | some (.other _) => none
  | some (.table items) => do
      let certFile ← textField items "cert_file"
      let keyFile ← textField items "key_file"
      let minVersion ← textField items "min_version"
      let ciphers ← listField items "ciphers"
      return ⟨certFile, keyFile, minVersion, ciphers⟩

end TlsConfig

/-- Tables are merged key by key. Otherwise the overlay replaces what is there. -/
def TomlEntry.merge : Option TomlEntry → Option TomlEntry → Option TomlEntry
  | some (.table items), some (.table overlay) => some (.table (overlay ∪ items))
  | base, none => base
  | _, some overlay => some overlay

/-- The file of the secret may be missing. -/
def secretDocument (parse : String → Option TomlDocument) : Option String → Option TomlDocument
  | none => some ∅
  | some text => parse text

/-- The TLS section of the configuration. -/
def loadConfig (parse : String → Option TomlDocument) (config : String) (secretConfig : Option String) :
    Option TlsConfig := do
  let base ← parse config
  let overlay ← secretDocument parse secretConfig
  TlsConfig.ofEntry (TomlEntry.merge (base.lookup "tls") (overlay.lookup "tls"))

/-- The document may say where the certificates are, but sets no policy. -/
def SetsNoPolicy (document : TomlDocument) : Prop :=
  ∀ items, document.lookup "tls" = some (.table items) →
    items.lookup "min_version" = none ∧ items.lookup "ciphers" = none

variable {items : StringMap TomlItem} {tls : TlsConfig}

theorem policy_of_ofEntry (h : TlsConfig.ofEntry (some (.table items)) = some tls) :
    TlsConfig.textField items "min_version" = some tls.minVersion ∧
      TlsConfig.listField items "ciphers" = some tls.ciphers := by
  simp only [TlsConfig.ofEntry, Option.bind_eq_bind, Option.bind_eq_some_iff, Option.pure_def] at h
  obtain ⟨certFile, _, keyFile, _, minVersion, hMin, ciphers, hCiphers, hTls⟩ := h
  cases hTls
  exact ⟨hMin, hCiphers⟩

/-- A secret without a policy of its own leaves the policy as configured. -/
theorem policy_of_loadConfig {parse : String → Option TomlDocument} {config : String} {secret : Option String}
    {document : TomlDocument} (hParse : parse config = some document)
    (hTable : document.lookup "tls" = some (.table items))
    (hSecret : ∀ text ∈ secret, ∀ overlay ∈ parse text, SetsNoPolicy overlay)
    (h : loadConfig parse config secret = some tls) :
    TlsConfig.textField items "min_version" = some tls.minVersion ∧
      TlsConfig.listField items "ciphers" = some tls.ciphers := by
  simp only [loadConfig, Option.bind_eq_bind, hParse, Option.bind_some, Option.bind_eq_some_iff, hTable] at h
  obtain ⟨overlay, hOverlay, h⟩ := h
  have hQuiet : SetsNoPolicy overlay := by
    cases secret with
    | none =>
      cases hOverlay
      exact fun _ h => absurd h nofun
    | some text => exact hSecret text rfl overlay hOverlay
  cases hEntry : overlay.lookup "tls" with
  | none =>
    rw [hEntry] at h
    exact policy_of_ofEntry h
  | some entry =>
    cases entry with
    | other source =>
      rw [hEntry] at h
      cases h
    | table added =>
      rw [hEntry] at h
      obtain ⟨hMin, hCiphers⟩ := policy_of_ofEntry h
      obtain ⟨hNoMin, hNoCiphers⟩ := hQuiet added hEntry
      rw [TlsConfig.textField, AList.lookup_union_right (AList.lookup_eq_none.1 hNoMin)] at hMin
      rw [TlsConfig.listField, AList.lookup_union_right (AList.lookup_eq_none.1 hNoCiphers)] at hCiphers
      exact ⟨hMin, hCiphers⟩

end Configuration

section Listener

inductive TlsVersion where
  | tls10
  | tls11
  | tls12
  | tls13
  deriving DecidableEq, Repr

namespace TlsVersion

def name : TlsVersion → String
  | .tls10 => "VersionTLS10"
  | .tls11 => "VersionTLS11"
  | .tls12 => "VersionTLS12"
  | .tls13 => "VersionTLS13"

def rank : TlsVersion → Nat
  | .tls10 => 10
  | .tls11 => 11
  | .tls12 => 12
  | .tls13 => 13

instance : LE TlsVersion := ⟨fun first second => first.rank ≤ second.rank⟩

instance (first second : TlsVersion) : Decidable (first ≤ second) :=
  inferInstanceAs (Decidable (first.rank ≤ second.rank))

theorem name_injective : Function.Injective name := by
  intro first second
  cases first <;> cases second <;> decide

end TlsVersion

inductive SupportedCipherSuite where
  | tls12 (suite : UInt16)
  | tls13 (suite : UInt16)
  deriving DecidableEq, Repr

namespace SupportedCipherSuite

def suite : SupportedCipherSuite → UInt16
  | .tls12 suite | .tls13 suite => suite

def isTls12 : SupportedCipherSuite → Bool
  | .tls12 _ => true
  | .tls13 _ => false

def isTls13 : SupportedCipherSuite → Bool
  | .tls12 _ => false
  | .tls13 _ => true

end SupportedCipherSuite

/-- The files that the service finds and the libraries it is built with. -/
structure TlsRuntime (Certificate PrivateKey : Type) where
  printable : Char → Bool
  read : String → Except String String
  pemFileIter : String → Except String (List (Except String Certificate))
  pemKeyFile : String → Except String PrivateKey
  cipherSuites : List SupportedCipherSuite
  asStr : UInt16 → Option String
  withProtocolVersions : List SupportedCipherSuite → List TlsVersion → Except String Unit
  withSingleCert : List Certificate → PrivateKey → Except String Unit
  tlsConfig : String × String → Except String Unit

structure TlsAcceptor (Certificate PrivateKey : Type) where
  versions : List TlsVersion
  cipherSuites : List SupportedCipherSuite
  certs : List Certificate
  key : PrivateKey
  alpnProtocols : List String

/-- The builder of the server, with the identity of the simple TLS path. -/
structure ServerBuilder where
  identity : Option (String × String)

/-- What accepts the connections. -/
inductive Listener (Certificate PrivateKey : Type) where
  | plaintext
  | identity (identity : String × String)
  | enforced (acceptor : TlsAcceptor Certificate PrivateKey)

variable {Certificate PrivateKey : Type} (runtime : TlsRuntime Certificate PrivateKey)

def readCertificates (certFile : String) : Except String (List Certificate) := do
  let items ← mapErr (fun error => s!"reading certificate file {certFile}: {error}") (runtime.pemFileIter certFile)
  mapErr (fun error => s!"parsing certificate file {certFile}: {error}") (items.mapM id)

def protocolVersions (minVersion : String) : Except String (List TlsVersion) :=
  if minVersion = "VersionTLS13" then .ok [.tls13]
  else if minVersion = "VersionTLS12" then .ok [.tls12, .tls13]
  else .error (s!"unsupported TLS minimum version {debugString runtime.printable minVersion}: " ++
    "the Flight listener cannot serve below TLS 1.2")

/-- Without a list, every suite of the provider is kept. -/
def tls12Suites (minVersion : String) (ciphers : Option (List String)) : Except String (List SupportedCipherSuite) :=
  if minVersion ≠ "VersionTLS13" then
    match ciphers with
    | some requested =>
      let usable := runtime.cipherSuites.filter fun suite =>
        suite.isTls12 && requested.any fun name => runtime.asStr suite.suite == some name
      if usable = [] then
        let supported := runtime.cipherSuites.filterMap fun suite => runtime.asStr suite.suite
        .error (s!"no usable cipher suites for TLS <= 1.2 in {debugList runtime.printable requested}; " ++
          s!"provider supports {debugList runtime.printable supported}")
      else .ok usable
    | none => .ok (runtime.cipherSuites.filter SupportedCipherSuite.isTls12)
  else .ok []

/-- Every suite for TLS 1.3 that is not there yet is added. -/
def offerTls13 (suites : List SupportedCipherSuite) : List SupportedCipherSuite :=
  runtime.cipherSuites.foldl (fun suites suite =>
    if suite.isTls13 && !suites.any (fun offered => offered.suite == suite.suite) then suites ++ [suite]
    else suites) suites

def buildTlsAcceptor (certFile keyFile minVersion : String) (ciphers : Option (List String)) :
    Except String (TlsAcceptor Certificate PrivateKey) := do
  let certs ← readCertificates runtime certFile
  let key ← mapErr (fun error => s!"reading key file {keyFile}: {error}") (runtime.pemKeyFile keyFile)
  let versions ← protocolVersions runtime minVersion
  let suites ← tls12Suites runtime minVersion ciphers
  let offered := offerTls13 runtime suites
  runtime.withProtocolVersions offered versions
  runtime.withSingleCert certs key
  return ⟨versions, offered, certs, key, ["h2"]⟩

def configureTls (builder : ServerBuilder) (tls : TlsConfig) :
    Except String (ServerBuilder × Option (TlsAcceptor Certificate PrivateKey)) := do
  tls.validate
  if tls.minVersion.isSome && (tls.certFile.isNone || tls.keyFile.isNone) then
    .error ("cluster TLS policy projected (min_version set) but tls.cert_file/tls.key_file " ++
      "are not both configured")
  else
    match tls.certFile, tls.keyFile with
    | some certFile, some keyFile =>
      match tls.minVersion with
      | none => do
          let cert ← runtime.read certFile
          let key ← runtime.read keyFile
          runtime.tlsConfig (cert, key)
          return ({ builder with identity := some (cert, key) }, none)
      | some minVersion => do
          let acceptor ← buildTlsAcceptor runtime certFile keyFile minVersion tls.ciphers
          return (builder, some acceptor)
    | _, _ => .ok (builder, none)

/-- The server accepts through the acceptor if there is one, and otherwise as
the builder says. -/
def startServer : ServerBuilder × Option (TlsAcceptor Certificate PrivateKey) → Listener Certificate PrivateKey
  | (_, some acceptor) => .enforced acceptor
  | (⟨some identity⟩, none) => .identity identity
  | (⟨none⟩, none) => .plaintext

end Listener

section Enforcement

variable {Certificate PrivateKey : Type} {runtime : TlsRuntime Certificate PrivateKey}

/-- The listener speaks TLS only, in no version below the minimum. Its suites
are all those of the provider for TLS 1.3 and, under a lower minimum, those
for TLS 1.2 that the list names; without a list all of them. -/
def Enforces (runtime : TlsRuntime Certificate PrivateKey) (minimum : TlsVersion)
    (ciphers : Option (List String)) (listener : Listener Certificate PrivateKey) : Prop :=
  ∃ acceptor, listener = .enforced acceptor ∧ (∀ version ∈ acceptor.versions, minimum ≤ version) ∧
    (acceptor.cipherSuites.map SupportedCipherSuite.suite).Nodup ∧
    ∀ suite, suite ∈ acceptor.cipherSuites ↔ suite ∈ runtime.cipherSuites ∧
      (suite.isTls13 = true ∨ minimum ≠ .tls13 ∧ suite.isTls12 = true ∧
        ∀ requested ∈ ciphers, ∃ name ∈ requested, runtime.asStr suite.suite = some name)

variable {ciphers : Option (List String)} {minVersion : String} {builder : ServerBuilder} {tls : TlsConfig}
  {configured : ServerBuilder × Option (TlsAcceptor Certificate PrivateKey)}

/-- Under a minimum of TLS 1.3 the list is without effect. -/
theorem Enforces.of_tls13 {listener : Listener Certificate PrivateKey} (h : Enforces runtime .tls13 ciphers listener)
    (other : Option (List String)) :
    Enforces runtime .tls13 other listener := by
  obtain ⟨acceptor, hListener, hVersions, hNodup, hMem⟩ := h
  refine ⟨acceptor, hListener, hVersions, hNodup, fun suite => ?_⟩
  rw [hMem]
  simp

/-- Items with new keys are pushed one after another, so the wanted ones are
all added. -/
theorem foldl_push_new {Item Key : Type} [DecidableEq Key] (key : Item → Key) (wanted : Item → Bool)
    {items pushed : List Item} (hKeys : (items.map key).Nodup)
    (hNew : ∀ item ∈ items, wanted item = true → ∀ old ∈ pushed, key old ≠ key item) :
    items.foldl (fun pushed item =>
      if wanted item && !pushed.any (fun old => key old == key item) then pushed ++ [item] else pushed)
      pushed = pushed ++ items.filter wanted := by
  induction items generalizing pushed with
  | nil => simp
  | cons item items ih =>
    rw [map_cons, nodup_cons] at hKeys
    obtain ⟨hItem, hKeys⟩ := hKeys
    rw [foldl_cons, filter_cons]
    by_cases hWanted : wanted item = true
    · have hFresh : pushed.any (fun old => key old == key item) = false := by
        simpa using hNew item (by simp) hWanted
      rw [if_pos hWanted, if_pos (by simp [hWanted, hFresh]), ih hKeys]
      · simp
      · intro later hLater hLaterWanted old hOld
        rcases mem_append.1 hOld with hOld | hOld
        · exact hNew later (mem_cons_of_mem item hLater) hLaterWanted old hOld
        · rw [mem_singleton.1 hOld]
          exact fun hSame => hItem (hSame ▸ mem_map_of_mem hLater)
    · rw [if_neg hWanted, if_neg (by simp [hWanted])]
      exact ih hKeys fun later hLater => hNew later (mem_cons_of_mem item hLater)

/-- The suites for TLS 1.2 that the policy lets through. -/
def permitsTls12 (runtime : TlsRuntime Certificate PrivateKey) (minVersion : String)
    (ciphers : Option (List String)) (suite : SupportedCipherSuite) : Bool :=
  minVersion != "VersionTLS13" && (suite.isTls12 &&
    ciphers.all fun requested => requested.any fun name => runtime.asStr suite.suite == some name)

theorem permitsTls12_iff {suite : SupportedCipherSuite} : permitsTls12 runtime minVersion ciphers suite = true ↔
      minVersion ≠ "VersionTLS13" ∧ suite.isTls12 = true ∧
        ∀ requested ∈ ciphers, ∃ name ∈ requested, runtime.asStr suite.suite = some name := by
  cases ciphers with
  | none | some requested => simp [permitsTls12]

theorem isTls13_of_permitsTls12 {suite : SupportedCipherSuite}
    (h : permitsTls12 runtime minVersion ciphers suite = true) :
    suite.isTls13 = false := by
  cases suite with
  | tls12 suite => rfl
  | tls13 suite => simp [permitsTls12, SupportedCipherSuite.isTls12] at h

theorem tls12Suites_ok {suites : List SupportedCipherSuite} (h : tls12Suites runtime minVersion ciphers = .ok suites) :
    suites = runtime.cipherSuites.filter (permitsTls12 runtime minVersion ciphers) := by
  unfold tls12Suites at h
  split at h
  next hLower =>
      have hLower : (minVersion != "VersionTLS13") = true := bne_iff_ne.2 hLower
      cases ciphers with
      | none =>
        rw [← Except.ok.inj h]
        congr 1
        funext suite
        simp [permitsTls12, hLower]
      | some requested =>
        dsimp only at h
        split at h
        · cases h
        · rw [← Except.ok.inj h]
          congr 1
          funext suite
          simp [permitsTls12, hLower]
  next hTop =>
      have hTop : (minVersion != "VersionTLS13") = false := by simpa using hTop
      rw [← Except.ok.inj h]
      simp [permitsTls12, hTop]

section

variable (hSuites : (runtime.cipherSuites.map SupportedCipherSuite.suite).Nodup) (minVersion : String)
  (ciphers : Option (List String))

include hSuites

/-- No suite of the provider is both for TLS 1.2 and for TLS 1.3, so all those
for TLS 1.3 are new. -/
theorem offerTls13_eq : offerTls13 runtime (runtime.cipherSuites.filter (permitsTls12 runtime minVersion ciphers)) =
      runtime.cipherSuites.filter (permitsTls12 runtime minVersion ciphers) ++
        runtime.cipherSuites.filter SupportedCipherSuite.isTls13 := by
  refine foldl_push_new SupportedCipherSuite.suite SupportedCipherSuite.isTls13 hSuites ?_
  intro suite hSuite hTls13 old hOld hSame
  obtain ⟨hOld, hPermitted⟩ := mem_filter.1 hOld
  rw [← inj_on_of_nodup_map hSuites hOld hSuite hSame, isTls13_of_permitsTls12 hPermitted] at hTls13
  cases hTls13

theorem nodup_offered : ((runtime.cipherSuites.filter (permitsTls12 runtime minVersion ciphers) ++
      runtime.cipherSuites.filter SupportedCipherSuite.isTls13).map SupportedCipherSuite.suite).Nodup := by
  rw [map_append, nodup_append]
  refine ⟨hSuites.sublist (filter_sublist.map _), hSuites.sublist (filter_sublist.map _), ?_⟩
  intro first hFirst second hSecond hSame
  obtain ⟨old, hOld, rfl⟩ := mem_map.1 hFirst
  obtain ⟨new, hNew, rfl⟩ := mem_map.1 hSecond
  obtain ⟨hOld, hPermitted⟩ := mem_filter.1 hOld
  obtain ⟨hNew, hTls13⟩ := mem_filter.1 hNew
  rw [← inj_on_of_nodup_map hSuites hOld hNew hSame, isTls13_of_permitsTls12 hPermitted] at hTls13
  cases hTls13

end

theorem protocolVersions_ok {versions : List TlsVersion} (h : protocolVersions runtime minVersion = .ok versions) :
    ∃ minimum : TlsVersion, minimum.name = minVersion ∧ ∀ version ∈ versions, minimum ≤ version := by
  unfold protocolVersions at h
  split at h
  next hTop =>
      rw [← Except.ok.inj h]
      exact ⟨.tls13, hTop.symm, by decide⟩
  · split at h
    next hLower =>
        rw [← Except.ok.inj h]
        exact ⟨.tls12, hLower.symm, by decide⟩
    · cases h

/-- A service with a configured minimum starts with an acceptor or not at all. -/
theorem acceptor_of_configureTls (hMin : tls.minVersion = some minVersion)
    (h : configureTls runtime builder tls = .ok configured) :
    ∃ certFile keyFile acceptor, buildTlsAcceptor runtime certFile keyFile minVersion tls.ciphers = .ok acceptor ∧
      configured = (builder, some acceptor) := by
  obtain ⟨_, _, h⟩ := bind_eq_ok.1 h
  split at h
  · cases h
  next hFiles =>
      rw [hMin] at h hFiles
      cases hCert : tls.certFile with
      | none => exact absurd (by simp [hCert]) hFiles
      | some certFile =>
        cases hKey : tls.keyFile with
        | none => exact absurd (by simp [hKey]) hFiles
        | some keyFile =>
          rw [hCert, hKey] at h
          obtain ⟨acceptor, hBuilt, h⟩ := bind_eq_ok.1 h
          exact ⟨certFile, keyFile, acceptor, hBuilt, (Except.ok.inj h).symm⟩

theorem buildTlsAcceptor_ok {certFile keyFile : String} {acceptor : TlsAcceptor Certificate PrivateKey}
    (h : buildTlsAcceptor runtime certFile keyFile minVersion ciphers = .ok acceptor) :
    protocolVersions runtime minVersion = .ok acceptor.versions ∧
      ∃ suites, tls12Suites runtime minVersion ciphers = .ok suites ∧
        acceptor.cipherSuites = offerTls13 runtime suites := by
  obtain ⟨certs, _, h⟩ := bind_eq_ok.1 h
  obtain ⟨key, _, h⟩ := bind_eq_ok.1 h
  obtain ⟨versions, hVersions, h⟩ := bind_eq_ok.1 h
  obtain ⟨suites, hSuites, h⟩ := bind_eq_ok.1 h
  obtain ⟨_, _, h⟩ := bind_eq_ok.1 h
  obtain ⟨_, _, h⟩ := bind_eq_ok.1 h
  cases h
  exact ⟨hVersions, suites, hSuites, rfl⟩

/-- A configured minimum is enforced unless the service does not start. -/
theorem enforces_of_configureTls (hSuites : (runtime.cipherSuites.map SupportedCipherSuite.suite).Nodup)
    (hMin : tls.minVersion = some minVersion) (h : configureTls runtime builder tls = .ok configured) :
    ∃ minimum : TlsVersion, minimum.name = minVersion ∧
      Enforces runtime minimum tls.ciphers (startServer configured) := by
  obtain ⟨certFile, keyFile, acceptor, hBuilt, rfl⟩ := acceptor_of_configureTls hMin h
  obtain ⟨hVersions, selected, hSelected, hOffered⟩ := buildTlsAcceptor_ok hBuilt
  obtain ⟨minimum, hName, hNotBelow⟩ := protocolVersions_ok hVersions
  rw [tls12Suites_ok hSelected, offerTls13_eq hSuites] at hOffered
  refine ⟨minimum, hName, acceptor, rfl, hNotBelow, ?_, ?_⟩
  · rw [hOffered]
    exact nodup_offered hSuites minVersion tls.ciphers
  · intro suite
    have hTop : minVersion ≠ "VersionTLS13" ↔ minimum ≠ .tls13 := by
      rw [← hName]
      exact TlsVersion.name_injective.ne_iff (y := .tls13)
    rw [hOffered, mem_append, mem_filter, mem_filter, ← and_or_left, permitsTls12_iff, hTop, or_comm]

end Enforcement
end DataConnectHub.Flight
