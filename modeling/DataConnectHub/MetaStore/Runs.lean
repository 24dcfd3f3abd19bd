import DataConnectHub.MetaStore.Effects

/-! Runs of the metadata store. A store is reachable when calls run one after
another lead to it from the empty tables, with any of their database calls
failing. Interleaved calls commit reachable stores only. -/
namespace DataConnectHub

open RowStore Transaction

def emptyStore : Tables := fun _ => []

/-- One call on its own; `faults` says which of its database calls fail. -/
def MetaCall.run (globalTenantId : String) (call : MetaCall) (faults : Nat → Option Failure)
    (store : Tables) : Except MetaStoreError MetaAnswer × Tables :=
  isolated faults (call.program globalTenantId) store store

variable {globalTenantId : String} {store : Tables}

/-- A call either succeeds with its effect, or returns an error and leaves the
tables as they are. -/
theorem MetaCall.run_cases (call : MetaCall) (globalTenantId : String) (hStore : WellFormed store)
    (faults : Nat → Option Failure) :
    (∃ answer, (call.run globalTenantId faults store).1 = .ok answer ∧
      WellFormed (call.run globalTenantId faults store).2 ∧
      call.Effect globalTenantId (rows store) answer (rows (call.run globalTenantId faults store).2)) ∨
    ((∃ error, (call.run globalTenantId faults store).1 = .error error) ∧
      (call.run globalTenantId faults store).2 = store) := by
  rcases (call.disciplined globalTenantId).isolated_cases hStore faults with
    ⟨answer, after, hRun, hAtomic, hAfter⟩ | ⟨error, hRun⟩
  · left
    have hSound : (rows store).Sound := Registry.sound_of_wellFormed (by rwa [store_rows hStore])
    rw [← store_rows hStore] at hAtomic
    obtain ⟨changed, rfl, hEffect⟩ := call.effect_of_ok hSound hAtomic
    refine ⟨answer, ?_⟩
    rw [MetaCall.run, hRun]
    exact ⟨rfl, hAfter, by rwa [rows_store]⟩
  · right
    rw [MetaCall.run, hRun]
    exact ⟨⟨error, rfl⟩, rfl⟩

/-- The stores that calls can lead to. -/
inductive Reachable (globalTenantId : String) : Tables → Prop where
  | empty : Reachable globalTenantId emptyStore
  | run {store : Tables} (h : Reachable globalTenantId store) (call : MetaCall) (faults : Nat → Option Failure) :
      Reachable globalTenantId (call.run globalTenantId faults store).2

namespace Reachable

theorem wellFormed (h : Reachable globalTenantId store) : WellFormed store := by
  induction h with
  | empty => exact WellFormed.empty
  | run _ call faults ih =>
    rcases call.run_cases globalTenantId ih faults with ⟨_, _, hAfter, _⟩ | ⟨_, hSame⟩
    · exact hAfter
    · rwa [hSame]

theorem sound (h : Reachable globalTenantId store) : (rows store).Sound :=
  Registry.sound_of_wellFormed (by rw [store_rows h.wellFormed]; exact h.wellFormed)

/-- What holds of the empty registry and is kept by every effect holds of
every reachable store. -/
theorem invariant (Holds : Registry → Prop) (hEmpty : Holds fun _ => [])
    (hEffect : ∀ {registry call answer changed}, registry.Sound → Holds registry →
      MetaCall.Effect globalTenantId registry call answer changed → Holds changed)
    (h : Reachable globalTenantId store) : Holds (rows store) := by
  induction h with
  | empty => exact hEmpty
  | run hBefore call faults ih =>
    rcases call.run_cases globalTenantId hBefore.wellFormed faults with ⟨_, _, _, hChange⟩ | ⟨_, hSame⟩
    · exact hEffect hBefore.sound ih hChange
    · rwa [hSame]

/-- Interleaved calls commit reachable stores only. -/
theorem committed {Client : Type} [DecidableEq Client] {calls : Client → MetaCall}
    {config : Config metaSchema Client (Except MetaStoreError MetaAnswer)}
    (hStart : Reachable globalTenantId store)
    (hReach : Config.Reaches (Config.initial store fun client => (calls client).program globalTenantId) config) :
    Reachable globalTenantId config.committed := by
  have hConsistent := serializable hStart.wellFormed (fun client => (calls client).disciplined globalTenantId) hReach
  rw [hConsistent.serial]
  generalize config.log = log
  induction log using List.reverseRecOn with
  | nil => exact hStart
  | append_singleton log client ih =>
    rw [serially_append_singleton]
    exact ih.run (calls client) noFaults

end Reachable

/-- A connection type and a connection of it, for examples. -/
def sampleType : DataConnectionType :=
  { name := "postgres", label := none, provider := "postgres", description := none,
    credentialsFields := [], tags := none }

def sampleConnection : DataConnection :=
  { name := "orders", dataConnectionTypeId := "type-1", format := .tabular,
    credentialsRef := ⟨"orders-secret"⟩, properties := ∅ }

/-- One client creates the type, the other the connection. -/
def sampleCalls : Bool → MetaCall
  | false => .createDataConnectionType "tenant-1" sampleType "type-1" "2026-01-01T00:00:00Z"
  | true => .createDataConnection "tenant-1" sampleConnection "connection-1" "2026-01-01T00:00:01Z"

/-- The store after both calls, one after the other. -/
def sampleStore : Tables :=
  ((sampleCalls true).run "global" noFaults ((sampleCalls false).run "global" noFaults emptyStore).2).2

theorem sampleStore_reachable : Reachable "global" sampleStore :=
  (Reachable.empty.run (sampleCalls false) noFaults).run (sampleCalls true) noFaults

end DataConnectHub
