import DataConnectHub.Unstructured.Nested

/-! The containers of rendered Deployments. Several functions of the controller walk
over the containers of all Deployments, and write each list back with some containers
changed. -/
namespace DataConnectHub.Controller

open Serde Unstructured

def kindDeployment : String := "Deployment"

def getKind (obj : Json) : String := nestedString ["kind"] obj

def containersPath : List String := ["spec", "template", "spec", "containers"]

/-- `container["name"]`, empty when it is no text. -/
def containerName (container : Json) : String := nestedString ["name"] container

/-- The walk that these functions share. -/
def editContainers (edit : Json → Json) (obj : Json) : Json :=
  if getKind obj = kindDeployment then
    match nestedSlice? containersPath obj with
    | none => obj
    | some containers => setNested containersPath (.array (containers.map edit)) obj
  else obj

/-- The resource is a Deployment, and its containers are related one by one; nothing
else of it is different. Any other resource is the same. -/
inductive EditedContainers (related : Json → Json → Prop) : Json → Json → Prop where
  | containers {before : Json} {containers containers' : List Json} (hKind : getKind before = kindDeployment)
      (hBefore : nestedSlice? containersPath before = some containers)
      (hAfter : nestedSlice? containersPath (setNested containersPath (.array containers') before) = some containers')
      (hRelated : List.Forall₂ related containers containers') :
      EditedContainers related before (setNested containersPath (.array containers') before)
  | untouched {obj : Json} (h : getKind obj ≠ kindDeployment ∨ nestedSlice? containersPath obj = none) :
      EditedContainers related obj obj

section Walk

variable {edit : Json → Json} {obj : Json}

theorem getKind_setContainers (new obj : Json) : getKind (setNested containersPath new obj) = getKind obj := by
  rw [getKind, nestedString, containersPath, nested?_setNested_ne (by decide)]
  rfl

theorem editContainers_of_containers {containers : List Json} (hKind : getKind obj = kindDeployment)
    (h : nestedSlice? containersPath obj = some containers) :
    editContainers edit obj = setNested containersPath (.array (containers.map edit)) obj := by
  rw [editContainers, if_pos hKind, h]

theorem editContainers_of_untouched
    (h : getKind obj ≠ kindDeployment ∨ nestedSlice? containersPath obj = none) : editContainers edit obj = obj := by
  rw [editContainers]
  rcases h with hKind | hNone
  · rw [if_neg hKind]
  · rw [hNone, ite_self]

theorem containers_or_untouched (obj : Json) :
    (getKind obj = kindDeployment ∧ ∃ containers, nestedSlice? containersPath obj = some containers) ∨
      (getKind obj ≠ kindDeployment ∨ nestedSlice? containersPath obj = none) := by
  by_cases hKind : getKind obj = kindDeployment
  · cases hContainers : nestedSlice? containersPath obj with
    | none => exact .inr (.inr rfl)
    | some containers => exact .inl ⟨hKind, containers, rfl⟩
  · exact .inr (.inl hKind)

/-- A resource has been edited as related if each of its containers has. -/
theorem editedContainers_of {related : Json → Json → Prop}
    (h : getKind obj = kindDeployment → ∀ containers, nestedSlice? containersPath obj = some containers →
      ∀ container ∈ containers, related container (edit container)) :
    EditedContainers related obj (editContainers edit obj) := by
  rcases containers_or_untouched obj with ⟨hKind, containers, hContainers⟩ | hUntouched
  · rw [editContainers_of_containers hKind hContainers]
    refine .containers hKind hContainers (nestedSlice?_setNested hContainers) ?_
    rw [List.forall₂_map_right_iff, List.forall₂_same]
    exact h hKind containers hContainers
  · rw [editContainers_of_untouched hUntouched]
    exact .untouched hUntouched

theorem editContainers_editContainers (first second : Json → Json) (obj : Json) :
    editContainers second (editContainers first obj) = editContainers (fun container => second (first container)) obj := by
  rcases containers_or_untouched obj with ⟨hKind, containers, hContainers⟩ | hUntouched
  · rw [editContainers_of_containers hKind hContainers, editContainers_of_containers hKind hContainers,
      editContainers_of_containers ((getKind_setContainers ..).trans hKind) (nestedSlice?_setNested hContainers),
      setNested_setNested, List.map_map]
    rfl
  · rw [editContainers_of_untouched hUntouched, editContainers_of_untouched hUntouched,
      editContainers_of_untouched hUntouched]

theorem editContainers_congr {other : Json → Json}
    (h : getKind obj = kindDeployment → ∀ containers, nestedSlice? containersPath obj = some containers →
      ∀ container ∈ containers, edit container = other container) : editContainers edit obj = editContainers other obj := by
  rcases containers_or_untouched obj with ⟨hKind, containers, hContainers⟩ | hUntouched
  · rw [editContainers_of_containers hKind hContainers, editContainers_of_containers hKind hContainers,
      List.map_congr_left (h hKind containers hContainers)]
  · rw [editContainers_of_untouched hUntouched, editContainers_of_untouched hUntouched]

end Walk

end DataConnectHub.Controller
