import NativeBinding.Host.Routine
import NativeBinding.Value.Dump

/-!
# The conversions every session starts with

Each routine handles one kind of operand and fails on any other, so it may stand behind any
conversion. Reading a document as a number or a text succeeds on exactly that kind of document.
-/

set_option autoImplicit false

namespace NativeBinding.Builtin

def unexpected (heap : Heap) (operand : Value) : Except String Value :=
  .error ("unexpected operand " ++ heap.dump operand)

def jsonToInt : Routine
  | _, .json (.int n) => .ok (.int n)
  | _, .json document => .error ("cannot convert json " ++ document.kind ++ " to int")
  | heap, operand => unexpected heap operand

def jsonToString : Routine
  | _, .json (.string text) => .ok (.string text)
  | _, .json document => .error ("cannot convert json " ++ document.kind ++ " to string")
  | heap, operand => unexpected heap operand

/-- Takes the texts of `Decimal.read?`. -/
def stringToInt : Routine
  | _, .string text =>
      match Decimal.read? text with
      | some n => .ok (.int n)
      | none => .error ("'" ++ text ++ "' cannot be converted to int")
  | heap, operand => unexpected heap operand

def intToFloat : Routine
  | _, .int n => .ok (.float (.ofInt64 n))
  | heap, operand => unexpected heap operand

def intToString : Routine
  | _, .int n => .ok (.string (Decimal.ofInt n.toInt))
  | heap, operand => unexpected heap operand

def floatToInt : Routine
  | _, .float x => .ok (.int x.truncate)
  | heap, operand => unexpected heap operand

def booleanToString : Routine
  | _, .boolean value => .ok (.string (String.ofList (Json.boolChars value)))
  | heap, operand => unexpected heap operand

/-- A conversion with its routine, under the text that names the routine. -/
structure Entry where
  source : ValueType
  target : ValueType
  safe : Bool
  text : String
  routine : Routine

def conversions : List Entry :=
  [⟨.json, .int, false, "json_to_int", jsonToInt⟩,
    ⟨.json, .string, false, "json_to_string", jsonToString⟩,
    ⟨.string, .int, false, "string_to_int", stringToInt⟩,
    ⟨.int, .float, true, "int_to_float", intToFloat⟩,
    ⟨.int, .string, true, "int_to_string", intToString⟩,
    ⟨.float, .int, true, "float_to_int", floatToInt⟩,
    ⟨.boolean, .string, true, "boolean_to_string", booleanToString⟩]

def conversionNames : List String := conversions.map Entry.text

/-- The routine of this name, if it is one of the builtin ones. -/
def routine? (text : String) : Option Routine :=
  (conversions.find? fun entry => entry.text == text).map Entry.routine

end NativeBinding.Builtin
