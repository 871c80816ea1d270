import NativeBinding.Value.Json
import NativeBinding.ValueType.Order

/-!
# Values at the boundary

Struct and connector values refer to an instance by its address, and an instance never changes its
type, so a reference carries the type along. What the instance holds is kept elsewhere; two
references are equal when they name the same instance.
-/

set_option autoImplicit false

namespace NativeBinding

structure InstanceRef where
  address : Nat
  type : TypeName
  deriving DecidableEq, Repr, Inhabited

inductive Value where
  | int (value : Int64)
  | float (value : Binary64)
  | boolean (value : Bool)
  | string (value : String)
  | blob (bytes : List UInt8)
  | json (document : Json)
  /-- Entries in key order. -/
  | map (entries : List (String × Value))
  /-- The items are not checked against the element type. -/
  | array (element : ValueType) (items : List Value)
  | struct (ref : InstanceRef)
  | connector (ref : InstanceRef)
  | nil
  | error (message : String)

namespace Value

instance : Inhabited Value := ⟨nil⟩

/-- Entries in key order; of two with one key the later wins. -/
def ofEntries (entries : List (String × Value)) : Value := map (Entries.ofList entries)

/-- What stands in the value slot of a conversion that failed. -/
def zero : ValueType → Value
  | .int => int 0
  | .float => float .zero
  | .boolean => boolean false
  | .string => string ""
  | .blob => blob []
  | .json => json .null
  | .map => map []
  | .array element => array element []
  | .xml | .any | .nil | .error | .struct _ | .connector _ => nil

def type : Value → ValueType
  | int _ => .int
  | float _ => .float
  | boolean _ => .boolean
  | string _ => .string
  | blob _ => .blob
  | json _ => .json
  | map _ => .map
  | array element _ => .array element
  | struct ref => .struct ref.type
  | connector ref => .connector ref.type
  | nil => .nil
  | error _ => .error

/-- Whether a value may stand where `declared` is asked for. An error slot also takes nil. -/
def conformsTo (value : Value) (declared : ValueType) : Bool :=
  match declared, value with
  | .any, _ => true
  | .error, error _ => true
  | .error, nil => true
  | .error, _ => false
  | _, _ => value.type == declared

theorem nil_conforms_error : nil.conformsTo .error = true := rfl

theorem error_conforms_error (message : String) : (error message).conformsTo .error = true := rfl

def string? : Value → Option String
  | string value => some value
  | _ => none

def errorMessage? : Value → Option String
  | error message => some message
  | _ => none

def isNil : Value → Bool
  | nil => true
  | _ => false

mutual

/-- Equality with floating point numbers compared as numbers and instances by identity. -/
def equals : Value → Value → Bool
  | int left, int right => left == right
  | float left, float right => left.equals right
  | boolean left, boolean right => left == right
  | string left, string right => left == right
  | blob left, blob right => left == right
  | json left, json right => left.equals right
  | map left, map right => entriesEqual left right
  | array leftElement left, array rightElement right =>
      leftElement == rightElement && itemsEqual left right
  | struct left, struct right => left == right
  | connector left, connector right => left == right
  | nil, nil => true
  | error left, error right => left == right
  | _, _ => false

def itemsEqual : List Value → List Value → Bool
  | [], [] => true
  | left :: lefts, right :: rights => equals left right && itemsEqual lefts rights
  | _, _ => false

def entriesEqual : List (String × Value) → List (String × Value) → Bool
  | [], [] => true
  | (leftKey, left) :: lefts, (rightKey, right) :: rights =>
      leftKey == rightKey && equals left right && entriesEqual lefts rights
  | _, _ => false

end

end Value

end NativeBinding
