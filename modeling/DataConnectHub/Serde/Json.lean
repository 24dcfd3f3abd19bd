import Mathlib.Algebra.Group.Nat.Defs
import Mathlib.Data.List.Sort

/-! JSON values, the database's path operators on them and merge patches.
Objects are lists of members, read by name and written with one member for
each name. -/
namespace Serde

/-- A decimal number `mantissa / 10 ^ scale`; an integer has scale zero. -/
structure Number where
  mantissa : Int
  scale : Nat
  deriving DecidableEq, Repr

def Number.render (number : Number) : String :=
  if number.scale = 0 then toString number.mantissa
  else
    let digits := toString (number.mantissa.natAbs % 10 ^ number.scale)
    (if number.mantissa < 0 then "-" else "") ++ toString (number.mantissa.natAbs / 10 ^ number.scale) ++ "." ++
      String.ofList (List.replicate (number.scale - digits.length) '0') ++ digits

inductive Json where
  | null
  | bool (value : Bool)
  | number (value : Number)
  | string (value : String)
  | array (items : List Json)
  | object (members : List (String × Json))

/-- The members of an object in their order. -/
abbrev Members := List (String × Json)

namespace Json

def hexDigit (n : Nat) : Char :=
  (['0', '1', '2', '3', '4', '5', '6', '7', '8', '9', 'a', 'b', 'c', 'd', 'e', 'f'].drop (n % 16)).headD '0'

def escapeChar (c : Char) : List Char :=
  if c = '"' then ['\\', '"']
  else if c = '\\' then ['\\', '\\']
  else if c.toNat = 8 then ['\\', 'b']
  else if c.toNat = 12 then ['\\', 'f']
  else if c = '\n' then ['\\', 'n']
  else if c = '\r' then ['\\', 'r']
  else if c = '\t' then ['\\', 't']
  else if c.toNat < 32 then ['\\', 'u', '0', '0', hexDigit (c.toNat / 16), hexDigit c.toNat]
  else [c]

def quote (text : String) : String :=
  "\"" ++ String.ofList (text.toList.flatMap escapeChar) ++ "\""

/-- The order in which the database keeps the members of an object. -/
def memberBefore (first second : String × String) : Bool :=
  first.1.utf8ByteSize < second.1.utf8ByteSize ||
    (first.1.utf8ByteSize == second.1.utf8ByteSize && decide (first.1 ≤ second.1))

mutual
/-- The text of a value as the database prints it. -/
def render : Json → String
  | .null => "null"
  | .bool value => if value then "true" else "false"
  | .number value => value.render
  | .string value => quote value
  | .array items => "[" ++ ", ".intercalate (renderItems items) ++ "]"
  | .object members =>
    let sorted := (renderMembers members).insertionSort fun first second => memberBefore first second
    "\x7b" ++ ", ".intercalate (sorted.map fun member => quote member.1 ++ ": " ++ member.2) ++ "\x7d"

def renderItems : List Json → List String
  | [] => []
  | item :: rest => item.render :: renderItems rest

def renderMembers : Members → List (String × String)
  | [] => []
  | (name, value) :: rest => (name, value.render) :: renderMembers rest
end

def members : Json → Members
  | .object members => members
  | _ => []

/-- The operator `->`. -/
def field? (value : Json) (name : String) : Option Json :=
  value.members.lookup name

/-- The conversion done by `->>`; SQL `NULL` is `none`. -/
def text? : Json → Option String
  | .null => none
  | .string value => some value
  | value => some value.render

/-- `value -> outer ->> inner`. -/
def path? (value : Json) (outer inner : String) : Option String :=
  ((value.field? outer).bind fun found => found.field? inner).bind text?

/-- `value @> '[name]'`. -/
def containsString (name : String) : Json → Bool
  | .array items => items.any fun
      | .string item => item == name
      | _ => false
  | _ => false

def put (name : String) (value : Json) : Members → Members
  | [] => [(name, value)]
  | (other, old) :: rest =>
    if other == name then (name, value) :: rest else (other, old) :: put name value rest

mutual
/-- A JSON merge patch: `null` removes a member, an object is merged into the
member of the same name, and any other value replaces what was there. -/
def merge : Json → Json → Json
  | value, .object changes => .object (mergeMembers value.members changes)
  | _, patch => patch

def mergeMembers : Members → Members → Members
  | members, [] => members
  | members, (name, .null) :: rest =>
    mergeMembers (members.filter fun member => member.1 != name) rest
  | members, (name, change) :: rest =>
    mergeMembers (put name (merge ((members.lookup name).getD .null) change) members) rest
end

theorem lookup_cons (name key : String) (value : Json) (rest : Members) :
    ((name, value) :: rest).lookup key = if key = name then some value else rest.lookup key := by
  by_cases h : key = name
  · simp [h]
  · have hMiss : (key == name) = false := by simpa using h
    simp [List.lookup_cons, h, hMiss]

theorem lookup_put (name key : String) (value : Json) (members : Members) :
    (put name value members).lookup key = if key = name then some value else members.lookup key := by
  induction members with
  | nil => rw [put, lookup_cons]
  | cons member rest ih =>
    obtain ⟨other, old⟩ := member
    by_cases hOther : other = name
    · subst hOther
      simp only [put, BEq.rfl, if_true, lookup_cons]
      split <;> rfl
    · have hMiss : (other == name) = false := by simpa using hOther
      simp only [put, hMiss, Bool.false_eq_true, if_false, lookup_cons, ih]
      by_cases hKey : key = other
      · subst hKey
        simp [hOther]
      · simp [hKey]

theorem lookup_filter_ne (members : Members) (name key : String) :
    (members.filter fun member => member.1 != name).lookup key = if key = name then none else members.lookup key := by
  induction members with
  | nil => simp
  | cons member rest ih =>
    obtain ⟨other, old⟩ := member
    by_cases hOther : other = name
    · subst hOther
      have hDrop : ((other, old) :: rest).filter (fun member => member.1 != other) =
          rest.filter fun member => member.1 != other := by simp
      rw [hDrop, ih, lookup_cons]
      by_cases hKey : key = other
      · simp only [if_pos hKey]
      · simp only [if_neg hKey]
    · by_cases hKey : key = other
      · subst hKey
        simp [hOther]
      · simp [lookup_cons, hOther, hKey, ih]

/-- A member of a patched object is an old one or comes from the patch. -/
theorem lookup_mergeMembers {members changes : Members} {name : String} {value : Json}
    (h : (mergeMembers members changes).lookup name = some value) :
    members.lookup name = some value ∨ ∃ old change, (name, change) ∈ changes ∧ value = merge old change := by
  induction changes generalizing members with
  | nil => exact .inl (by simpa [mergeMembers] using h)
  | cons change rest ih =>
    obtain ⟨changed, patch⟩ := change
    -- either way the rest of the patch applies to members of this step
    have hStep : ∃ next, mergeMembers members ((changed, patch) :: rest) = mergeMembers next rest ∧
        (next.lookup name = some value → members.lookup name = some value ∨
          ∃ old, name = changed ∧ value = merge old patch) := by
      cases patch with
      | null =>
        refine ⟨_, by rw [mergeMembers], fun hNext => ?_⟩
        rw [lookup_filter_ne] at hNext
        split at hNext
        · cases hNext
        · exact .inl hNext
      | _ =>
        refine ⟨_, by rw [mergeMembers]; nofun, fun hNext => ?_⟩
        rw [lookup_put] at hNext
        split at hNext
        · rename_i hName
          exact .inr ⟨_, hName, (Option.some.inj hNext).symm⟩
        · exact .inl hNext
    obtain ⟨next, hEq, hNext⟩ := hStep
    rw [hEq] at h
    rcases ih h with hOld | ⟨old, change, hChange, rfl⟩
    · rcases hNext hOld with hSame | ⟨old, rfl, hValue⟩
      · exact .inl hSame
      · exact .inr ⟨old, patch, List.mem_cons_self .., hValue⟩
    · exact .inr ⟨old, change, List.mem_cons_of_mem _ hChange, rfl⟩

end Json
end Serde
