import DataConnectHub.Serde.Codec

/-! What the controllers share: the errors of the cluster's API that they tell
apart, the result of a reconcile, and annotations. -/
namespace DataConnectHub.Controller

open Serde

inductive ApiReason where
  | notFound
  | conflict
  | noMatch
  | other
  deriving DecidableEq, Repr

structure ApiError where
  reason : ApiReason
  message : String
  deriving DecidableEq, Repr

/-- When a reconcile is to be repeated without a new event. -/
inductive CtrlResult where
  | done
  | requeue
  | requeueAfter (seconds : Nat)
  deriving DecidableEq, Repr

/-- The value of an annotation, empty when it is not set. -/
def annotationValue (annotations : StringMap String) (key : String) : String :=
  (annotations.lookup key).getD ""

@[simp] theorem annotationValue_insert_self (annotations : StringMap String) (key value : String) :
    annotationValue (annotations.insert key value) key = value := by
  simp [annotationValue]

def annotationDisplayName : String := "openshift.io/display-name"
def annotationDCHSynced : String := "dataconnecthub.opendatahub.io/synced"
def valueSyncedTrue : String := "true"
def cmNameURIv1 : String := "uri-v1"
def requeueOnMigrationServiceUnavailable : Nat := 30

/-- The built-in provider that covers a connection type of the dashboard. -/
def builtinProviderAliases (typeRef : String) : Option String :=
  if typeRef = cmNameURIv1 then some "uri" else none

/-- Whether a resource of the service is being deleted; each item says whether
it has a deletion timestamp. -/
def dataConnectServiceDeleting : Except ApiError (List Bool) → Except ApiError Bool
  | .error error => if error.reason = .notFound then .ok false else .error error
  | .ok items => .ok (items.any id)

end DataConnectHub.Controller
