import NativeBinding.ValueType.Order

/-!
# Signatures

A signature is the identity of a callable: its kind, its package, its member and the types of its
parameters. Callables that share a member but not their parameters are distinct. The written form
leaves out the kind and the package of the receiver.
-/

set_option autoImplicit false

namespace NativeBinding

inductive CallableKind where
  | function
  | action
  deriving DecidableEq, Repr, Inhabited

namespace CallableKind

/-- Functions are listed before actions. -/
def rank : CallableKind → Nat
  | function => 0
  | action => 1

instance : Ord CallableKind := ⟨compareOn rank⟩

instance : Std.TransOrd CallableKind := inferInstanceAs (Std.TransCmp (compareOn rank))

instance : Std.LawfulEqOrd CallableKind where
  toReflCmp := inferInstanceAs (Std.ReflCmp (compareOn rank))
  eq_of_compare := by
    intro left right same
    cases left <;> cases right <;> first | rfl | exact absurd same (by decide)

end CallableKind

/-- What a package calls a callable: a name, under a receiver type if there is one. -/
structure Member where
  receiver : Option TypeName := none
  name : Name
  deriving DecidableEq, Repr, Inhabited

namespace Member

def order : Member → Member → Ordering := compareLex (compareOn receiver) (compareOn name)

/-- Members without a receiver come first. -/
instance : Ord Member := ⟨order⟩

instance : Std.TransOrd Member :=
  inferInstanceAs (Std.TransCmp (compareLex (compareOn receiver) (compareOn name)))

instance : Std.LawfulEqOrd Member where
  toReflCmp := inferInstanceAs (Std.ReflCmp (compareLex (compareOn receiver) (compareOn name)))
  eq_of_compare := by
    intro ⟨leftReceiver, leftName⟩ ⟨rightReceiver, rightName⟩ same
    obtain ⟨receivers, names⟩ := Ordering.then_eq_eq.1 same
    have sameReceiver : leftReceiver = rightReceiver := Std.LawfulEqCmp.eq_of_compare receivers
    have sameName : leftName = rightName := Std.LawfulEqCmp.eq_of_compare names
    rw [sameReceiver, sameName]

/-- `package:name` or `package:Receiver.name`. -/
def qualified (spell : Spelling) (package : Name) (member : Member) : String :=
  match member.receiver with
  | some receiver =>
      spell package ++ ":" ++ spell receiver.name ++ "." ++ spell member.name
  | none => spell package ++ ":" ++ spell member.name

end Member

structure Signature where
  kind : CallableKind
  package : Name
  member : Member
  params : List ValueType
  deriving DecidableEq, Repr, Inhabited

namespace Signature

def order : Signature → Signature → Ordering :=
  compareLex (compareOn kind) (compareLex (compareOn package)
    (compareLex (compareOn member) (compareOn params)))

instance : Ord Signature := ⟨order⟩

instance : Std.TransOrd Signature :=
  inferInstanceAs (Std.TransCmp (compareLex (compareOn kind) (compareLex (compareOn package)
    (compareLex (compareOn member) (compareOn params)))))

instance : Std.LawfulEqOrd Signature where
  toReflCmp := inferInstanceAs (Std.ReflCmp (compareLex (compareOn kind)
    (compareLex (compareOn package) (compareLex (compareOn member) (compareOn params)))))
  eq_of_compare := by
    intro ⟨leftKind, leftPackage, leftMember, leftParams⟩
      ⟨rightKind, rightPackage, rightMember, rightParams⟩ same
    obtain ⟨kinds, same⟩ := Ordering.then_eq_eq.1 same
    obtain ⟨packages, same⟩ := Ordering.then_eq_eq.1 same
    obtain ⟨members, params⟩ := Ordering.then_eq_eq.1 same
    have sameKind : leftKind = rightKind := Std.LawfulEqCmp.eq_of_compare kinds
    have samePackage : leftPackage = rightPackage := Std.LawfulEqCmp.eq_of_compare packages
    have sameMember : leftMember = rightMember := Std.LawfulEqCmp.eq_of_compare members
    have sameParams : leftParams = rightParams := Std.LawfulEqCmp.eq_of_compare params
    rw [sameKind, samePackage, sameMember, sameParams]

/-- Types between commas. -/
def typeListText (spell : Spelling) (types : List ValueType) : String :=
  ", ".intercalate (types.map (ValueType.text spell))

/-- `package:Receiver.name(type, …)`. -/
def text (spell : Spelling) (signature : Signature) : String :=
  signature.member.qualified spell signature.package ++
    "(" ++ typeListText spell signature.params ++ ")"

end Signature

end NativeBinding
