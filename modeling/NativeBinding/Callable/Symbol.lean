import NativeBinding.Callable.Declaration

/-!
# Symbols

A symbol is what a checker sees of a declaration: the callable's type and five flags, all fixed
when the declaration is registered.
-/

set_option autoImplicit false

namespace NativeBinding

structure CallableType where
  kind : CallableKind
  params : List ValueType
  returns : List ValueType
  deriving DecidableEq, Repr, Inhabited

namespace CallableType

/-- How many results a call has. -/
def resultArity (type : CallableType) : Nat := type.returns.length

/-- Whether the last result is an error. -/
def isFallible (type : CallableType) : Bool := type.returns.getLast? == some .error

end CallableType

structure Flags where
  /-- Implemented by the host. -/
  native : Bool
  /-- Visible outside its package. -/
  isPublic : Bool
  /-- An action of a connector. -/
  action : Bool
  /-- Called through a receiver. -/
  attached : Bool
  /-- The last result is an error. -/
  fallible : Bool
  deriving DecidableEq, Repr, Inhabited

namespace Flags

/-- Names of the flags with their settings, from the lowest bit on. -/
def listed (flags : Flags) : List (String × Bool) :=
  [("NATIVE", flags.native), ("PUBLIC", flags.isPublic), ("ACTION", flags.action),
    ("ATTACHED", flags.attached), ("FALLIBLE", flags.fallible)]

def names (flags : Flags) : List String := (flags.listed.filter (·.2)).map (·.1)

def bits (flags : Flags) : Nat :=
  flags.listed.foldr (fun flag rest => 2 * rest + flag.2.toNat) 0

end Flags

structure Symbol where
  type : CallableType
  flags : Flags
  deriving DecidableEq, Repr, Inhabited

namespace Declaration

def callableType (declaration : Declaration) : CallableType :=
  ⟨declaration.kind, declaration.params, declaration.returns⟩

/-- The symbol that stands for a declaration in the scope. -/
def symbol (declaration : Declaration) : Symbol :=
  { type := declaration.callableType
    flags :=
      { native := true
        isPublic := declaration.isVisible
        action := declaration.kind == .action
        attached := declaration.receiver.isSome
        fallible := declaration.callableType.isFallible } }

end Declaration

end NativeBinding
