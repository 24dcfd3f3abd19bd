import DataConnectHub.MetaStore.TypeReads
import DataConnectHub.Rest.FailedRequests

/-! Tables with rows that cannot be deserialized, which the store itself never
writes. The listing of the types of a tenant leaves such rows out; the other
listings end at the first of them, and the audit of the types with them. -/
namespace DataConnectHub.Rest

open Serde RowStore Interaction Program Transaction RustStd List

/-- The document stands for a resource of its table. -/
def readable (table : MetaTable) (doc : Json) : Bool :=
  (fromValue (α := table.Row) doc).isSome

section Listings

variable {store : Tables} {doc : Json} {table : MetaTable} {Item Value : Type}

variable (globalTenantId tenantId : String)

end Listings

section Audit

variable {globalTenantId : String} {store : Tables}

/-- What the unique indexes see of the document of a type. -/
def typeColumns (doc : Json) : Option String × Option String × Option String :=
  (doc.path? "metadata" "id", MetaTable.nameIndex .dataConnectionTypes doc)

/-- The unique indexes hold, and what they see of a document is what is read
from it. -/
structure Indexed (docs : List Json) : Prop where
  columns : ∀ doc ∈ docs, ∀ row : DataConnectionTypeResource, fromValue doc = some row →
    typeColumns doc = typeColumns (toValue row)
  unique : docs.Pairwise fun first second => MetaTable.clashes .dataConnectionTypes first second = false

theorem clashes_of_columns {first first' second second' : Json} (h : typeColumns first = typeColumns first')
    (h' : typeColumns second = typeColumns second') :
    MetaTable.clashes .dataConnectionTypes first second = MetaTable.clashes .dataConnectionTypes first' second' := by
  obtain ⟨hId, hName⟩ := Prod.mk.inj h
  obtain ⟨hId', hName'⟩ := Prod.mk.inj h'
  simp only [MetaTable.clashes, hId, hName, hId', hName']

namespace Indexed

variable {docs : List Json} {doc : Json} {row : DataConnectionTypeResource}

theorem key_eq (h : Indexed docs) (hDoc : doc ∈ docs) (hRead : fromValue doc = some row) :
    metaSchema.key doc = some row.metadata.id :=
  (Prod.mk.inj (h.columns doc hDoc row hRead)).1

variable {first second : Json}

section

variable (h : Indexed docs)

include h

theorem not_clashes (hFirst : first ∈ docs) (hSecond : second ∈ docs) (hOther : first ≠ second) :
    MetaTable.clashes .dataConnectionTypes first second = false := by
  have hSymm : Std.Symm fun first second => MetaTable.clashes .dataConnectionTypes first second = false :=
    ⟨fun first second hApart => (metaSchema.clashes_symm .dataConnectionTypes second first).trans hApart⟩
  exact h.unique.forall hFirst hSecond hOther

theorem eq_of_key {id : String} (hFirst : first ∈ docs) (hSecond : second ∈ docs)
    (hKey : metaSchema.key first = some id) (hKey' : metaSchema.key second = some id) : first = second := by
  by_contra hOther
  have hClash := metaSchema.clashes_of_key .dataConnectionTypes first second id hKey hKey'
  exact Bool.false_ne_true ((h.not_clashes hFirst hSecond hOther).symm.trans hClash)

theorem selects_iff (hDoc : doc ∈ docs) (hRead : fromValue doc = some row) {other : Json} (hOther : other ∈ docs) :
    metaSchema.selects row.metadata.id anyTenant other = true ↔ other = doc := by
  rw [metaSchema.selects_iff]
  constructor
  · rintro ⟨hKey, -⟩
    exact h.eq_of_key hOther hDoc hKey (h.key_eq hDoc hRead)
  · rintro rfl
    exact ⟨h.key_eq hOther hRead, rfl⟩

theorem find_eq (hDoc : doc ∈ docs) (hRead : fromValue doc = some row) :
    docs.find? (metaSchema.selects row.metadata.id anyTenant) = some doc := by
  cases hFind : docs.find? (metaSchema.selects row.metadata.id anyTenant) with
  | none => exact absurd ((h.selects_iff hDoc hRead hDoc).mpr rfl) (find?_eq_none.mp hFind doc hDoc)
  | some found =>
    rw [(h.selects_iff hDoc hRead (mem_of_find?_eq_some hFind)).mp (find?_some hFind)]

/-- The rows after one of them has got a new status. -/
theorem replace (hDoc : doc ∈ docs) (hRead : fromValue doc = some row) {changed : DataConnectionTypeResource}
    (hColumns : typeColumns (toValue changed) = typeColumns doc) :
    Indexed (docs.map fun other =>
      if metaSchema.selects row.metadata.id anyTenant other then toValue changed else other) := by
  constructor
  · intro written hWritten resource hResource
    obtain ⟨other, hOther, rfl⟩ := mem_map.mp hWritten
    split at hResource
    next hSelected =>
        rw [if_pos hSelected, ← Option.some.inj ((Codec.fromValue_toValue changed).symm.trans hResource)]
    next hSelected =>
        rw [if_neg hSelected]
        exact h.columns other hOther resource hResource
  · have hSame : ∀ other ∈ docs, typeColumns other = typeColumns
        (if metaSchema.selects row.metadata.id anyTenant other then toValue changed else other) := by
      intro other hOther
      split
      next hSelected => rw [(h.selects_iff hDoc hRead hOther).mp hSelected, hColumns]
      · rfl
    refine pairwise_map.mpr (List.Pairwise.imp_of_mem ?_ h.unique)
    intro first second hFirst hSecond hApart
    rw [← clashes_of_columns (hSame first hFirst) (hSame second hSecond)]
    exact hApart

end

end Indexed

variable {row : DataConnectionTypeResource} {outcomes : Nat → Outcome} {Item : Type}
  {read : Json → Except MetaStoreError Item}

/-- A call that meets no trouble outside the tables. -/
def Undisturbed (outcome : Outcome) : Prop :=
  outcome.refused = none ∧ outcome.choice.faults = noFaults

section Calls

variable {operation : StoreCall} {outcomes : Nat → Outcome} {after : Tables}
  {onError : MetaStoreError → RestErrorResponse} {rest : operation.Value → ApiM HttpResponse}

end Calls

end Audit

end DataConnectHub.Rest
