import NativeBinding.Conversion
import NativeBinding.Span

/-!
# Conversion expressions

A cast `<T> operand` starts without a conversion. Binding fixes the conversion and the result
slots together; binding again replaces both.
-/

set_option autoImplicit false

namespace NativeBinding

/-- A handle to an expression that someone else keeps. -/
structure ExprId where
  index : Nat
  deriving DecidableEq, Repr, Inhabited

def ExprId.text (id : ExprId) : String := "expr#" ++ Nat.repr id.index

structure Cast where
  operand : ExprId
  target : ValueType
  span : Span
  conversion : Option Conversion := none
  slots : List Slot := []
  deriving DecidableEq, Repr, Inhabited

namespace Cast

def unbound (operand : ExprId) (target : ValueType) (span : Span) : Cast :=
  { operand, target, span }

def bind (cast : Cast) (conversion : Conversion) : Cast :=
  { cast with conversion := some conversion, slots := conversion.slots }

def isBound (cast : Cast) : Bool := cast.conversion.isSome

/-- Before a conversion is known, room for the error has to be kept. -/
def hasErrorSlot (cast : Cast) : Bool :=
  match cast.conversion with
  | some conversion => !conversion.safe
  | none => true

def types (cast : Cast) : List ValueType := cast.slots.map Slot.type

def text (spell : Spelling) (cast : Cast) : String :=
  "<" ++ cast.target.text spell ++ "> " ++ cast.operand.text

/-- Binding leaves no trace of an earlier binding. -/
theorem foldl_bind (cast : Cast) (conversions : List Conversion) :
    conversions.foldl bind cast = conversions.getLast?.elim cast cast.bind := by
  induction conversions generalizing cast with
  | nil => rfl
  | cons conversion rest ih =>
      rw [List.foldl_cons, ih, List.getLast?_cons]
      cases rest.getLast? <;> rfl

end Cast

end NativeBinding
