import NativeBinding.Callable.Symbol
import NativeBinding.Diagnostic
import NativeBinding.Value

/-!
# Calling host implementations

An implementation is any function from a state and arguments to a new state and results. It is
bound under the signature of its declaration and runs only on arguments that conform to the
declaration; results that do not conform are refused, after the fact.
-/

set_option autoImplicit false

namespace NativeBinding

/-- Receives the receiver first, if there is one, and then the parameters. -/
abbrev Native (σ : Type) := σ → List Value → σ × List Value

structure Binding (σ : Type) where
  declaration : Declaration
  native : Native σ

inductive DispatchError where
  | unknownNative
  | argumentCount (expected found : Nat)
  | argumentType (index : Nat) (expected found : ValueType)
  | resultCount (expected found : Nat)
  | resultType (index : Nat) (expected found : ValueType)
  deriving DecidableEq, Repr

namespace DispatchError

def code : DispatchError → Code
  | unknownNative | argumentCount _ _ | argumentType _ _ _ => .dispatchFailed
  | resultCount _ _ | resultType _ _ _ => .resultMismatch

def message (spell : Spelling) (callee : String) : DispatchError → String
  | unknownNative => "no host implementation bound to `" ++ callee ++ "`"
  | argumentCount expected found =>
      "`" ++ callee ++ "` received " ++ Nat.repr found ++ " argument(s), expected " ++
        Nat.repr expected
  | argumentType index expected found =>
      "argument " ++ Nat.repr index ++ " of `" ++ callee ++ "` is `" ++ found.text spell ++
        "`, expected `" ++ expected.text spell ++ "`"
  | resultCount expected found =>
      "`" ++ callee ++ "` returned " ++ Nat.repr found ++ " value(s), declared " ++
        Nat.repr expected
  | resultType index expected found =>
      "result " ++ Nat.repr index ++ " of `" ++ callee ++ "` is `" ++ found.text spell ++
        "`, declared `" ++ expected.text spell ++ "`"

def label : DispatchError → String
  | unknownNative => "native call"
  | argumentCount _ _ => "wrong number of arguments"
  | argumentType _ _ _ => "mistyped argument"
  | resultCount _ _ | resultType _ _ _ => "native result mismatch"

def diagnostic (spell : Spelling) (signature : Signature) (span : Span) (error : DispatchError) :
    Diagnostic :=
  (Diagnostic.error error.code).decorateAll
    [.message (error.message spell (signature.text spell)), .label span error.label]

end DispatchError

/-- A value in a place that does not take it. -/
structure Misfit where
  index : Nat
  expected : ValueType
  found : ValueType
  deriving DecidableEq, Repr

/-- The first value that does not conform to the type declared for its place. -/
def firstMisfit? (index : Nat) : List ValueType → List Value → Option Misfit
  | declared :: types, value :: values =>
      if value.conformsTo declared then firstMisfit? (index + 1) types values
      else some ⟨index, declared, value.type⟩
  | _, _ => none

structure NativeTable (σ : Type) where
  bindings : OrderedMap Signature (Binding σ)

namespace NativeTable

variable {σ : Type}

def empty : NativeTable σ := ⟨.empty⟩

def size (table : NativeTable σ) : Nat := table.bindings.size

def isEmpty (table : NativeTable σ) : Bool := table.bindings.isEmpty

def contains (table : NativeTable σ) (signature : Signature) : Bool :=
  table.bindings.contains signature

def declaration? (table : NativeTable σ) (signature : Signature) : Option Declaration :=
  (table.bindings.find? signature).map Binding.declaration

/-- Answers whether an earlier implementation was replaced. -/
def register (table : NativeTable σ) (declaration : Declaration) (native : Native σ) :
    NativeTable σ × Bool :=
  (⟨table.bindings.insert declaration.signature ⟨declaration, native⟩⟩,
    table.contains declaration.signature)

/-- Answers whether there was an implementation to remove. -/
def unregister (table : NativeTable σ) (signature : Signature) : NativeTable σ × Bool :=
  (⟨table.bindings.erase signature⟩, table.contains signature)

/-- Why a binding is not run on these arguments. -/
def refuse? (declaration : Declaration) (args : List Value) : Option DispatchError :=
  if args.length ≠ declaration.argCount then
    some (.argumentCount declaration.argCount args.length)
  else
    (firstMisfit? 0 declaration.argTypes args).map fun misfit =>
      .argumentType misfit.index misfit.expected misfit.found

/-- Why these results are not handed on. -/
def reject? (declaration : Declaration) (results : List Value) : Option DispatchError :=
  if results.length ≠ declaration.returns.length then
    some (.resultCount declaration.returns.length results.length)
  else
    (firstMisfit? 0 declaration.returns results).map fun misfit =>
      .resultType misfit.index misfit.expected misfit.found

/-- What the implementation did to the state stands, also when its results are refused. -/
def invoke (table : NativeTable σ) (state : σ) (signature : Signature) (args : List Value) :
    σ × Except DispatchError (List Value) :=
  match table.bindings.find? signature with
  | none => (state, .error .unknownNative)
  | some binding =>
      match refuse? binding.declaration args with
      | some error => (state, .error error)
      | none =>
          let (after, results) := binding.native state args
          match reject? binding.declaration results with
          | some error => (after, .error error)
          | none => (after, .ok results)

def dump (table : NativeTable σ) : String :=
  "NativeRegistry \x7b entries: " ++ Nat.repr table.size ++ " \x7d"

end NativeTable

end NativeBinding
