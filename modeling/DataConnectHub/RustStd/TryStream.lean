import Mathlib.Init

/-! Blocks of `try_stream!`. Such a block yields items and may end early with
an error, which comes after the items yielded before it. A block with a loop
that has not come to its end has no outcome. -/
namespace RustStd

variable {Item Error Value Next : Type}

/-- The items yielded, and how the block ended. -/
structure Yielded (Item Error Value : Type) where
  items : List Item
  ended : Except Error Value

abbrev TryStream (Item Error Value : Type) := Option (Yielded Item Error Value)

namespace TryStream

def pure (value : Value) : TryStream Item Error Value :=
  some ⟨[], .ok value⟩

def throw (error : Error) : TryStream Item Error Value :=
  some ⟨[], .error error⟩

def yield (item : Item) : TryStream Item Error Unit :=
  some ⟨[item], .ok ()⟩

/-- What follows in a block, unless an error has ended it. -/
def andThen : TryStream Item Error Value → (Value → TryStream Item Error Next) → TryStream Item Error Next
  | none, _ => none
  | some ⟨items, .error error⟩, _ => some ⟨items, .error error⟩
  | some ⟨items, .ok value⟩, rest =>
    (rest value).map fun later => ⟨items ++ later.items, later.ended⟩

/-- The operator `?`. -/
def ofResult : Except Error Value → TryStream Item Error Value
  | .ok value => pure value
  | .error error => throw error

@[simp] theorem pure_andThen (value : Value) (rest : Value → TryStream Item Error Next) :
    (pure value).andThen rest = rest value := by
  change (rest value).map _ = rest value
  cases rest value <;> rfl

end TryStream
end RustStd
