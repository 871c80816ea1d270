/-!
# Diagnostic codes

The first digit of a code names the phase: 2 for types and resolution, 6 for calls of natives, 9
for internal errors. Codes are read without regard to the case of ASCII letters.
-/

set_option autoImplicit false

namespace NativeBinding

inductive Code where
  | typeMismatch
  | unresolvedSymbol
  | argumentCount
  | noConversion
  | ambiguousConversion
  | dispatchFailed
  | resultMismatch
  | internal
  deriving DecidableEq, Repr, Inhabited

/-- A text that names no code. -/
structure UnknownCode where
  text : String
  deriving DecidableEq, Repr

def UnknownCode.message (unknown : UnknownCode) : String := "unknown error code: " ++ unknown.text

namespace Code

def all : List Code :=
  [typeMismatch, unresolvedSymbol, argumentCount, noConversion, ambiguousConversion,
    dispatchFailed, resultMismatch, internal]

def text : Code → String
  | typeMismatch => "E2001"
  | unresolvedSymbol => "E2003"
  | argumentCount => "E2004"
  | noConversion => "E2101"
  | ambiguousConversion => "E2102"
  | dispatchFailed => "E6001"
  | resultMismatch => "E6002"
  | internal => "E9001"

def description : Code → String
  | typeMismatch => "type mismatch"
  | unresolvedSymbol => "unresolved symbol"
  | argumentCount => "argument count mismatch"
  | noConversion => "no such conversion"
  | ambiguousConversion => "ambiguous conversion"
  | dispatchFailed => "native dispatch failed"
  | resultMismatch => "native result mismatch"
  | internal => "internal error"

def isResolution : Code → Bool
  | typeMismatch | unresolvedSymbol | argumentCount | noConversion | ambiguousConversion => true
  | _ => false

def isConversion : Code → Bool
  | noConversion | ambiguousConversion => true
  | _ => false

def isDispatch : Code → Bool
  | dispatchFailed | resultMismatch => true
  | _ => false

def isInternal : Code → Bool
  | internal => true
  | _ => false

/-- `Char.toUpper` changes ASCII letters only, which is the rule here. -/
def read (text : String) : Except UnknownCode Code :=
  match all.find? fun code => code.text == text.map Char.toUpper with
  | some code => .ok code
  | none => .error ⟨text⟩

end Code

end NativeBinding
