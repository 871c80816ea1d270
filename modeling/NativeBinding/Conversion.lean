import NativeBinding.ValueType.Order

/-!
# Conversions and their results

A conversion is a rule from one type to another with the routine that carries it out. A safe one
can never fail and has one result; any other has two, the value and an error or nil, whether or
not an error occurs.
-/

set_option autoImplicit false

namespace NativeBinding

structure Conversion where
  source : ValueType
  target : ValueType
  safe : Bool
  routine : Name
  deriving DecidableEq, Repr, Inhabited

inductive SlotRole where
  | value
  | error
  deriving DecidableEq, Repr, Inhabited

/-- One place in the results of an expression. -/
structure Slot where
  type : ValueType
  role : SlotRole
  deriving DecidableEq, Repr, Inhabited

namespace Conversion

def arity (conversion : Conversion) : Nat := if conversion.safe then 1 else 2

def slots (conversion : Conversion) : List Slot :=
  let value : Slot := ⟨conversion.target, .value⟩
  if conversion.safe then [value] else [value, ⟨.error, .error⟩]

theorem length_slots (conversion : Conversion) : conversion.slots.length = conversion.arity := by
  unfold slots arity
  split <;> rfl

/-- Whatever the conversion, its value stands in the first slot. -/
theorem head_types (conversion : Conversion) :
    (conversion.slots.map Slot.type).head? = some conversion.target := by
  unfold slots
  split <;> rfl

end Conversion

end NativeBinding
