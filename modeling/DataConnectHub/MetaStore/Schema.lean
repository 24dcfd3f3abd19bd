import DataConnectHub.Api.Resources
import DataConnectHub.RowStore.Discipline

/-! The three tables of the metadata database. A table holds one JSON column;
its unique indexes are on expressions over the document. `Registry` is the
same content as typed resources. -/
namespace DataConnectHub

open Serde RowStore List

inductive MetaTable where
  | dataConnections
  | dataConnectionTypes
  | flightServices
  deriving DecidableEq, Repr

/-- The resource a document of the table stands for. -/
@[reducible] def MetaTable.Row : MetaTable → Type
  | .dataConnections => DataConnectionResource
  | .dataConnectionTypes => DataConnectionTypeResource
  | .flightServices => FlightServiceResource

instance (table : MetaTable) : Codec table.Row :=
  match table with
  | .dataConnections => inferInstanceAs (Codec DataConnectionResource)
  | .dataConnectionTypes => inferInstanceAs (Codec DataConnectionTypeResource)
  | .flightServices => inferInstanceAs (Codec FlightServiceResource)

namespace MetaTable

def metadata : (table : MetaTable) → table.Row → ResourceMetadata
  | .dataConnections => DataConnectionResource.metadata
  | .dataConnectionTypes => DataConnectionTypeResource.metadata
  | .flightServices => FlightServiceResource.metadata

/-- The second unique index of each table. -/
def nameIndex : MetaTable → Json → Option String × Option String
  | .dataConnections, doc => (doc.path? "resource" "name", doc.path? "metadata" "tenant_id")
  | .dataConnectionTypes, doc => (doc.path? "resource" "name", doc.path? "metadata" "tenant_id")
  | .flightServices, doc => (doc.path? "resource" "namespace", doc.path? "resource" "name")

/-- The same index, of the resource. -/
def name : (table : MetaTable) → table.Row → Option String × Option String
  | .dataConnections, row => (some row.resource.name, row.metadata.tenantId)
  | .dataConnectionTypes, row => (some row.resource.name, row.metadata.tenantId)
  | .flightServices, row => (some row.resource.namespaceName, some row.resource.name)

/-- Connections and their types always belong to a tenant. -/
def Owned (table : MetaTable) (row : table.Row) : Prop :=
  table ≠ .flightServices → (table.metadata row).tenantId.isSome = true

section

variable (table : MetaTable) (row : table.Row)

@[simp] theorem path_id : (toValue row).path? "metadata" "id" = some (table.metadata row).id := by
  cases table <;> rfl

@[simp] theorem path_tenant : (toValue row).path? "metadata" "tenant_id" = (table.metadata row).tenantId := by
  cases table <;>
    · obtain ⟨⟨id, tenantId, createdAt, updatedAt⟩, _⟩ := row
      cases tenantId <;> rfl

@[simp] theorem nameIndex_toValue : table.nameIndex (toValue row) = table.name row := by
  cases table with
  | dataConnections => exact Prod.ext rfl (path_tenant .dataConnections row)
  | dataConnectionTypes => exact Prod.ext rfl (path_tenant .dataConnectionTypes row)
  | flightServices => rfl

end

end MetaTable

/-- SQL equality of index columns, where `NULL` equals nothing. -/
def sqlEqual (first second : Option String) : Bool :=
  first.isSome && first == second

variable (first second : Option String)

theorem sqlEqual_iff : sqlEqual first second = true ↔ ∃ value, first = some value ∧ second = some value := by
  cases first with
  | none => simp [sqlEqual]
  | some value =>
    simp only [sqlEqual, Option.isSome_some, Bool.true_and, beq_iff_eq, Option.some.injEq]
    exact ⟨fun h => ⟨value, rfl, h.symm⟩, fun ⟨_, hFirst, hSecond⟩ => hFirst ▸ hSecond.symm⟩

theorem sqlEqual_symm : sqlEqual first second = sqlEqual second first := by
  rw [Bool.eq_iff_iff, sqlEqual_iff, sqlEqual_iff]
  simp only [and_comm]

/-- Two documents that the unique indexes do not allow side by side. -/
def MetaTable.clashes (table : MetaTable) (first second : Json) : Bool :=
  sqlEqual (first.path? "metadata" "id") (second.path? "metadata" "id") ||
    (sqlEqual (table.nameIndex first).1 (table.nameIndex second).1 &&
      sqlEqual (table.nameIndex first).2 (table.nameIndex second).2)

/-- A connection refers to its type by id. -/
def MetaTable.references : MetaTable → Json → List (MetaTable × String)
  | .dataConnections, doc =>
    ((doc.path? "resource" "data_connection_type_id").map fun id =>
      (MetaTable.dataConnectionTypes, id)).toList
  | _, _ => []

/-- Connections are locked before the types they refer to. -/
def MetaTable.rank : MetaTable → Nat
  | .dataConnections => 0
  | .dataConnectionTypes => 1
  | .flightServices => 2

@[reducible] def metaSchema : Schema where
  Table := MetaTable
  Doc := Json
  Key := String
  tableEq := inferInstance
  keyEq := inferInstance
  key doc := doc.path? "metadata" "id"
  clashes := MetaTable.clashes
  clashes_symm table first second := by
    simp only [MetaTable.clashes, sqlEqual_symm (first.path? "metadata" "id"),
      sqlEqual_symm (table.nameIndex first).1, sqlEqual_symm (table.nameIndex first).2]
  clashes_of_key table first second k hFirst hSecond := by
    simp only [MetaTable.clashes, hFirst, hSecond, (sqlEqual_iff _ _).mpr ⟨k, rfl, rfl⟩, Bool.true_or]
  references := MetaTable.references
  valid table doc := ∃ row : table.Row, doc = toValue row ∧ table.Owned row
  rank := MetaTable.rank

/-- The contents of the tables. -/
abbrev Tables := Store metaSchema

@[simp] theorem key_toValue (table : MetaTable) (row : table.Row) :
    metaSchema.key (toValue row) = some (table.metadata row).id := table.path_id row

/-- The content of the tables as resources. -/
abbrev Registry := (table : MetaTable) → List table.Row

def Registry.store (registry : Registry) : Tables :=
  fun table => (registry table).map toValue

def rows (store : Tables) : Registry :=
  fun table => (store table).filterMap fromValue

@[simp] theorem rows_store (registry : Registry) : rows registry.store = registry := by
  funext table
  simp [rows, Registry.store, filterMap_map]

variable {store : Tables}

theorem store_rows (h : WellFormed store) : (rows store).store = store := by
  funext table
  have hValid := h.valid table
  simp only [rows, Registry.store]
  generalize store table = docs at hValid
  induction docs with
  | nil => rfl
  | cons doc rest ih =>
    obtain ⟨row, rfl, -⟩ := hValid doc (mem_cons_self ..)
    simp [ih fun other hOther => hValid other (mem_cons_of_mem _ hOther)]

theorem mem_store_iff (h : WellFormed store) {table : MetaTable} (row : table.Row) :
    toValue row ∈ store table ↔ row ∈ rows store table := by
  constructor
  · intro hRow
    exact mem_filterMap.mpr ⟨toValue row, hRow, Codec.fromValue_toValue row⟩
  · intro hRow
    rw [← store_rows h]
    exact mem_map_of_mem hRow

/-- What the unique indexes and the code guarantee of the resources. -/
structure Registry.Sound (registry : Registry) : Prop where
  ids : ∀ table, ((registry table).map fun row => (table.metadata row).id).Nodup
  names : ∀ table, ((registry table).map table.name).Nodup
  owned : ∀ table, ∀ row ∈ registry table, table.Owned row

theorem MetaTable.name_isSome {table : MetaTable} {row : table.Row} (h : table.Owned row) :
    (table.name row).1.isSome = true ∧ (table.name row).2.isSome = true := by
  cases table with
  | dataConnections | dataConnectionTypes => exact ⟨rfl, h (by decide)⟩
  | flightServices => exact ⟨rfl, rfl⟩

theorem Registry.sound_of_wellFormed {registry : Registry} (h : WellFormed registry.store) : registry.Sound := by
  have hOwned : ∀ table, ∀ row ∈ registry table, table.Owned row := by
    intro table row hRow
    obtain ⟨row', hSame, hOwned⟩ := h.valid table (toValue row) (mem_map_of_mem hRow)
    have hEq : some row = some row' := by
      rw [← Codec.fromValue_toValue row, hSame, Codec.fromValue_toValue]
    rwa [Option.some.inj hEq]
  have hApart : ∀ table, (registry table).Pairwise fun first second =>
      MetaTable.clashes table (toValue first) (toValue second) = false :=
    fun table => pairwise_map.mp (h.unique table)
  refine ⟨fun table => ?_, fun table => ?_, hOwned⟩
  · refine pairwise_map.mpr ((hApart table).imp fun {first second} hClash hSame => ?_)
    simp [MetaTable.clashes, sqlEqual, hSame] at hClash
  · refine pairwise_map.mpr (List.Pairwise.imp_of_mem ?_ (hApart table))
    intro first second hFirst _ hClash hSame
    obtain ⟨hLeft, hRight⟩ := MetaTable.name_isSome (hOwned table first hFirst)
    simp [MetaTable.clashes, sqlEqual, ← hSame, hLeft, hRight] at hClash

end DataConnectHub
