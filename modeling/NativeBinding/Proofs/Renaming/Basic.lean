import Mathlib.Data.List.Basic
import NativeBinding.Callable.Call
import NativeBinding.Conversion.Table

/-!
# Renaming

A renaming puts another name in the place of every name that a type, a signature or a declaration
mentions, and leaves all else. An injective one keeps different things apart. If a second spelling
reads the new names as a first one reads the old, every text stays as it was.
-/

set_option autoImplicit false

namespace NativeBinding

variable {r : Name → Name}

/-- The new name of each of these is spelled as the old one was. -/
def Respells (r : Name → Name) (first second : Spelling) (names : List Name) : Prop :=
  ∀ name ∈ names, second (r name) = first name

instance (first second : Spelling) (names : List Name) :
    Decidable (Respells r first second names) :=
  inferInstanceAs (Decidable (∀ name ∈ names, second (r name) = first name))

section

variable {first second : Spelling}

theorem respells_append {left right : List Name} :
    Respells r first second (left ++ right) ↔
      Respells r first second left ∧ Respells r first second right :=
  List.forall_mem_append

theorem respells_flatMap {α : Type} {items : List α} {names : α → List Name} :
    Respells r first second (items.flatMap names) ↔
      ∀ item ∈ items, Respells r first second (names item) := by
  unfold Respells
  simp only [List.mem_flatMap]
  exact ⟨fun all item listed name mentioned => all name ⟨item, listed, mentioned⟩,
    fun all name ⟨item, listed, mentioned⟩ => all item listed name mentioned⟩

end

namespace TypeName

def names (type : TypeName) : List Name := [type.package, type.name]

def rename (r : Name → Name) (type : TypeName) : TypeName := ⟨r type.package, r type.name⟩

theorem rename_injective (injective : Function.Injective r) :
    Function.Injective (TypeName.rename r) := by
  rintro ⟨package, name⟩ ⟨otherPackage, otherName⟩ same
  simp only [rename, mk.injEq, injective.eq_iff] at same
  rw [same.1, same.2]

theorem text_rename {first second : Spelling} {type : TypeName}
    (respells : Respells r first second type.names) :
    (type.rename r).text second = type.text first := by
  unfold text rename
  rw [respells type.package (by simp [names]), respells type.name (by simp [names])]

end TypeName

namespace ValueType

def names : ValueType → List Name
  | array element => names element
  | struct name | connector name => name.names
  | _ => []

def rename (r : Name → Name) : ValueType → ValueType
  | array element => array (rename r element)
  | struct name => struct (name.rename r)
  | connector name => connector (name.rename r)
  | type => type

theorem rename_injective (injective : Function.Injective r) :
    Function.Injective (ValueType.rename r) := by
  intro left
  induction left with
  | array element ih =>
      intro right same
      cases right with
      | array other => exact congrArg array (ih (array.inj same))
      | _ => cases same
  | struct name =>
      intro right same
      cases right with
      | struct other =>
          exact congrArg struct (TypeName.rename_injective injective (struct.inj same))
      | _ => cases same
  | connector name =>
      intro right same
      cases right with
      | connector other =>
          exact congrArg connector (TypeName.rename_injective injective (connector.inj same))
      | _ => cases same
  | _ =>
      intro right same
      cases right with
      | _ => first | rfl | cases same

theorem text_rename {first second : Spelling} {type : ValueType}
    (respells : Respells r first second type.names) :
    (type.rename r).text second = type.text first := by
  induction type with
  | array element ih => exact congrArg (· ++ "[]") (ih respells)
  | struct name => exact TypeName.text_rename respells
  | connector name => exact TypeName.text_rename respells
  | _ => rfl

end ValueType

namespace Member

def names (member : Member) : List Name :=
  member.name :: member.receiver.toList.flatMap TypeName.names

def rename (r : Name → Name) (member : Member) : Member :=
  ⟨member.receiver.map (TypeName.rename r), r member.name⟩

theorem rename_injective (injective : Function.Injective r) :
    Function.Injective (Member.rename r) := by
  rintro ⟨receiver, name⟩ ⟨otherReceiver, otherName⟩ same
  simp only [rename, mk.injEq, injective.eq_iff] at same
  have receivers := Option.map_injective (TypeName.rename_injective injective) same.1
  rw [receivers, same.2]

theorem qualified_rename {first second : Spelling} {package : Name} {member : Member}
    (respells : Respells r first second (package :: member.names)) :
    (member.rename r).qualified second (r package) = member.qualified first package := by
  obtain ⟨receiver, name⟩ := member
  have samePackage := respells package (by simp)
  have sameName := respells name (by simp [names])
  cases receiver with
  | none =>
      unfold qualified rename
      dsimp only [Option.map_none]
      rw [samePackage, sameName]
  | some receiver =>
      have sameReceiver := respells receiver.name (by simp [names, TypeName.names])
      unfold qualified rename
      dsimp only [Option.map_some, TypeName.rename]
      rw [samePackage, sameName, sameReceiver]

end Member

namespace Signature

def names (signature : Signature) : List Name :=
  signature.package :: signature.member.names ++ signature.params.flatMap ValueType.names

def rename (r : Name → Name) (signature : Signature) : Signature :=
  ⟨signature.kind, r signature.package, signature.member.rename r,
    signature.params.map (ValueType.rename r)⟩

theorem rename_injective (injective : Function.Injective r) :
    Function.Injective (Signature.rename r) := by
  rintro ⟨kind, package, member, params⟩ ⟨otherKind, otherPackage, otherMember, otherParams⟩ same
  simp only [rename, mk.injEq, injective.eq_iff, (Member.rename_injective injective).eq_iff,
    (List.map_injective_iff.2 (ValueType.rename_injective injective)).eq_iff] at same
  rw [same.1, same.2.1, same.2.2.1, same.2.2.2]

theorem typeListText_rename {first second : Spelling} {types : List ValueType}
    (respells : Respells r first second (types.flatMap ValueType.names)) :
    typeListText second (types.map (ValueType.rename r)) = typeListText first types := by
  unfold typeListText
  rw [List.map_map]
  congr 1
  apply List.map_congr_left
  intro type listed
  exact ValueType.text_rename (respells_flatMap.1 respells type listed)

theorem text_rename {first second : Spelling} {signature : Signature}
    (respells : Respells r first second signature.names) :
    (signature.rename r).text second = signature.text first := by
  obtain ⟨place, params⟩ := respells_append.1 respells
  unfold text rename
  rw [Member.qualified_rename place, typeListText_rename params]

end Signature

namespace Declaration

def names (declaration : Declaration) : List Name :=
  declaration.signature.names ++ declaration.receiver.toList.flatMap ValueType.names ++
    declaration.returns.flatMap ValueType.names

def rename (r : Name → Name) (declaration : Declaration) : Declaration :=
  { signature := declaration.signature.rename r
    receiver := declaration.receiver.map (ValueType.rename r)
    returns := declaration.returns.map (ValueType.rename r)
    visibility := declaration.visibility }

@[simp]
theorem kind_rename (declaration : Declaration) :
    (declaration.rename r).kind = declaration.kind := rfl

@[simp]
theorem package_rename (declaration : Declaration) :
    (declaration.rename r).package = r declaration.package := rfl

@[simp]
theorem member_rename (declaration : Declaration) :
    (declaration.rename r).member = declaration.member.rename r := rfl

@[simp]
theorem signature_rename (declaration : Declaration) :
    (declaration.rename r).signature = declaration.signature.rename r := rfl

end Declaration

def CallableType.rename (r : Name → Name) (type : CallableType) : CallableType :=
  ⟨type.kind, type.params.map (ValueType.rename r), type.returns.map (ValueType.rename r)⟩

def Symbol.rename (r : Name → Name) (symbol : Symbol) : Symbol :=
  ⟨symbol.type.rename r, symbol.flags⟩

theorem CallableType.fallible_rename (type : CallableType) :
    (type.rename r).isFallible = type.isFallible := by
  unfold isFallible rename
  rw [List.getLast?_map]
  cases type.returns.getLast? with
  | none => rfl
  | some last => cases last <;> rfl

/-- The flags of a symbol depend on no name. -/
theorem Declaration.symbol_rename (declaration : Declaration) :
    (declaration.rename r).symbol = declaration.symbol.rename r := by
  have fallible : (declaration.rename r).callableType.isFallible =
      declaration.callableType.isFallible := CallableType.fallible_rename declaration.callableType
  have attached : (declaration.rename r).receiver.isSome = declaration.receiver.isSome :=
    Option.isSome_map
  unfold symbol
  rw [fallible, attached]
  rfl

def Conversion.names (conversion : Conversion) : List Name :=
  conversion.routine :: conversion.source.names ++ conversion.target.names

def Conversion.rename (r : Name → Name) (conversion : Conversion) : Conversion :=
  { source := conversion.source.rename r
    target := conversion.target.rename r
    safe := conversion.safe
    routine := r conversion.routine }

theorem Conversion.rename_injective (injective : Function.Injective r) :
    Function.Injective (Conversion.rename r) := by
  rintro ⟨source, target, safe, routine⟩ ⟨otherSource, otherTarget, otherSafe, otherRoutine⟩ same
  simp only [rename, mk.injEq, injective.eq_iff,
    (ValueType.rename_injective injective).eq_iff] at same
  rw [same.1, same.2.1, same.2.2.1, same.2.2.2]

namespace TypePair

def names (pair : TypePair) : List Name := pair.source.names ++ pair.target.names

def rename (r : Name → Name) (pair : TypePair) : TypePair :=
  ⟨pair.source.rename r, pair.target.rename r⟩

theorem rename_injective (injective : Function.Injective r) :
    Function.Injective (TypePair.rename r) := by
  rintro ⟨source, target⟩ ⟨otherSource, otherTarget⟩ same
  simp only [rename, mk.injEq, (ValueType.rename_injective injective).eq_iff] at same
  rw [same.1, same.2]

end TypePair

namespace Call

def names (call : Call) : List Name :=
  call.package :: call.member.names ++ call.args.flatMap ValueType.names

def rename (r : Name → Name) (call : Call) : Call :=
  ⟨r call.package, call.member.rename r, call.args.map (ValueType.rename r)⟩

end Call

end NativeBinding
