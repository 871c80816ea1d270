import NativeBinding.Callable.Signature

/-!
# Declarations of host callables

A declaration says where a callable lives, what it takes, what it returns and who may call it. It
starts as a plain function or as an action of a connector and is completed by build steps.
-/

set_option autoImplicit false

namespace NativeBinding

inductive Visibility where
  | visible
  /-- Callable from its own package only. -/
  | hidden
  deriving DecidableEq, Repr, Inhabited

structure Declaration where
  signature : Signature
  /-- The type of the value the callable is called through. -/
  receiver : Option ValueType
  returns : List ValueType
  visibility : Visibility
  deriving DecidableEq, Repr, Inhabited

/-- One step of completing a declaration. -/
inductive BuildStep where
  | attachedTo (struct : TypeName)
  | param (type : ValueType)
  | params (types : List ValueType)
  | returning (type : ValueType)
  /-- The last result is an error. -/
  | fallible
  | visibility (visibility : Visibility)
  deriving DecidableEq, Repr

namespace Declaration

def function (package name : Name) : Declaration :=
  { signature := ⟨.function, package, ⟨none, name⟩, []⟩
    receiver := none
    returns := []
    visibility := .visible }

def action (package : Name) (connector : TypeName) (name : Name) : Declaration :=
  { signature := ⟨.action, package, ⟨some connector, name⟩, []⟩
    receiver := some (.connector connector)
    returns := []
    visibility := .visible }

/-- Attaching moves the callable under a struct type, also an action; its name stays. -/
def attachedTo (declaration : Declaration) (struct : TypeName) : Declaration :=
  { declaration with
    signature.member := ⟨some struct, declaration.signature.member.name⟩
    receiver := some (.struct struct) }

def taking (declaration : Declaration) (types : List ValueType) : Declaration :=
  { declaration with signature.params := declaration.signature.params ++ types }

def returning (declaration : Declaration) (type : ValueType) : Declaration :=
  { declaration with returns := declaration.returns ++ [type] }

def build (declaration : Declaration) : BuildStep → Declaration
  | .attachedTo struct => declaration.attachedTo struct
  | .param type => declaration.taking [type]
  | .params types => declaration.taking types
  | .returning type => declaration.returning type
  | .fallible => declaration.returning .error
  | .visibility visibility => { declaration with visibility }

def buildAll (declaration : Declaration) (steps : List BuildStep) : Declaration :=
  steps.foldl build declaration

def kind (declaration : Declaration) : CallableKind := declaration.signature.kind

def package (declaration : Declaration) : Name := declaration.signature.package

def member (declaration : Declaration) : Member := declaration.signature.member

def params (declaration : Declaration) : List ValueType := declaration.signature.params

def isVisible (declaration : Declaration) : Bool := declaration.visibility == .visible

/-- What an implementation is called with: the receiver, if any, and then the parameters. -/
def argTypes (declaration : Declaration) : List ValueType :=
  declaration.receiver.toList ++ declaration.params

def argCount (declaration : Declaration) : Nat := declaration.argTypes.length

def qualified (spell : Spelling) (declaration : Declaration) : String :=
  declaration.member.qualified spell declaration.package

end Declaration

end NativeBinding
