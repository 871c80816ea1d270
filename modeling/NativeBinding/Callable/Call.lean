import NativeBinding.Callable.Catalog
import NativeBinding.Diagnostic

/-!
# Resolving calls

A call resolves by exact signature. One that does not gets a single diagnostic for the first thing
that is missing: the package, the member, the number of arguments, their types.
-/

set_option autoImplicit false

namespace NativeBinding

/-- A call site; the arguments do not include the receiver. -/
structure Call where
  package : Name
  member : Member
  args : List ValueType
  deriving DecidableEq, Repr

def Call.qualified (spell : Spelling) (call : Call) : String :=
  call.member.qualified spell call.package

/-- Why a call does not resolve; `held` is what the package has under the called member. -/
inductive CallError where
  | unknownPackage
  | unknownMember
  | argumentCount (held : Declaration)
  | argumentTypes (held : Declaration)
  deriving DecidableEq, Repr

namespace CallError

def code : CallError → Code
  | unknownPackage | unknownMember => .unresolvedSymbol
  | argumentCount _ => .argumentCount
  | argumentTypes _ => .typeMismatch

/-- The signature that is registered under the called member. -/
def registeredNote (spell : Spelling) (held : Declaration) : Decoration :=
  .note ("registered signature is `" ++ held.signature.text spell ++ "`")

def diagnostic (spell : Spelling) (span : Span) (call : Call) : CallError → Diagnostic
  | unknownPackage => .unresolved span "package" (spell call.package)
  | unknownMember => .unresolved span "function" (call.qualified spell)
  | argumentCount held =>
      (Diagnostic.error .argumentCount).decorateAll
        [.message ("`" ++ call.qualified spell ++ "` takes " ++ Nat.repr held.params.length ++
            " argument(s), " ++ Nat.repr call.args.length ++ " supplied"),
          .label span "wrong number of arguments",
          registeredNote spell held]
  | argumentTypes held =>
      (Diagnostic.error .typeMismatch).decorateAll
        [.message ("no `" ++ call.qualified spell ++ "` accepts (" ++
            Signature.typeListText spell call.args ++ ")"),
          .label span "argument types do not match",
          registeredNote spell held]

end CallError

/-- What a package holds under a member, a function before an action. -/
def Package.held? (package : Package) (member : Member) : Option Declaration :=
  match package.find? .function member with
  | some held => some held
  | none => package.find? .action member

def Catalog.resolveCall (catalog : Catalog) (call : Call) : Except CallError Symbol :=
  match catalog.callee? call.package call.member call.args with
  | some symbol => .ok symbol
  | none =>
      match catalog.package? call.package with
      | none => .error .unknownPackage
      | some package =>
          match package.held? call.member with
          | none => .error .unknownMember
          | some held =>
              if held.params.length = call.args.length then .error (.argumentTypes held)
              else .error (.argumentCount held)

theorem Catalog.resolveCall_eq_ok_iff (catalog : Catalog) (call : Call) (symbol : Symbol) :
    catalog.resolveCall call = .ok symbol ↔
      catalog.callee? call.package call.member call.args = some symbol := by
  unfold resolveCall
  cases catalog.callee? call.package call.member call.args with
  | some found => simp
  | none =>
      cases catalog.package? call.package with
      | none => simp
      | some package =>
          dsimp only
          cases package.held? call.member with
          | none => simp
          | some held =>
              dsimp only
              split <;> simp

end NativeBinding
