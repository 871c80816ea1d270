import NativeBinding.Value.Heap

/-!
# The constructor form of values

Messages about operands of the wrong kind show the value with all it refers to. The text of a
struct or connector value goes on into its fields. A chain of references that meets no instance
twice is no longer than the number of written instances and one more, so the depth given to
`dumpRef` is enough for every value without a cycle.
-/

set_option autoImplicit false

namespace NativeBinding

namespace Value

mutual

/-- The constructor form, given the text of an instance. -/
def dumpWith (instanceText : InstanceRef → String) : Value → String
  | int value => "Int(" ++ Decimal.ofInt value.toInt ++ ")"
  | float value => "Float(" ++ value.dump ++ ")"
  | boolean value => "Boolean(" ++ String.ofList (Json.boolChars value) ++ ")"
  | string value => "Str(" ++ Text.quote value ++ ")"
  | blob bytes => "Blob([" ++ ", ".intercalate (bytes.map fun byte => Nat.repr byte.toNat) ++ "])"
  | json document => "Json(" ++ document.dump ++ ")"
  | map entries => "Map(\x7b" ++ ", ".intercalate (dumpEntries instanceText entries) ++ "\x7d)"
  | array element items =>
      "Array \x7b element: " ++ element.dump ++ ", items: [" ++
        ", ".intercalate (dumpItems instanceText items) ++ "] \x7d"
  | struct ref => "Struct(" ++ instanceText ref ++ ")"
  | connector ref => "Connector(" ++ instanceText ref ++ ")"
  | nil => "Nil"
  | error message => "Error(ErrorValue \x7b message: " ++ Text.quote message ++ " \x7d)"

def dumpItems (instanceText : InstanceRef → String) : List Value → List String
  | [] => []
  | item :: items => dumpWith instanceText item :: dumpItems instanceText items

def dumpEntries (instanceText : InstanceRef → String) : List (String × Value) → List String
  | [] => []
  | (key, value) :: entries =>
      (Text.quote key ++ ": " ++ dumpWith instanceText value) :: dumpEntries instanceText entries

end

end Value

namespace Heap

/-- An instance with its type and fields, down to a depth of references. -/
def dumpRef (heap : Heap) : Nat → InstanceRef → String
  | 0, _ => "StructRef(..)"
  | depth + 1, ref =>
      let field (entry : Name × Value) : String :=
        entry.1.dump ++ ": " ++ entry.2.dumpWith (heap.dumpRef depth)
      "StructRef(StructValue \x7b ty: " ++ ref.type.dump ++ ", fields: \x7b" ++
        ", ".intercalate ((heap.fields ref).entries.map field) ++ "\x7d \x7d)"

def dump (heap : Heap) (value : Value) : String :=
  value.dumpWith (heap.dumpRef (heap.written.size + 1))

end Heap

end NativeBinding
