import NativeBinding.Callable.Declaration

/-!
# Packages

A package keeps its functions and its actions apart, each at most once per member. Registering a
member again replaces its declaration; declarations are never merged.
-/

set_option autoImplicit false

namespace NativeBinding

structure Package where
  name : Name
  functions : OrderedMap Member Declaration
  actions : OrderedMap Member Declaration
  deriving DecidableEq

namespace Package

def named (name : Name) : Package := ⟨name, .empty, .empty⟩

/-- The members of one kind. -/
def members (package : Package) : CallableKind → OrderedMap Member Declaration
  | .function => package.functions
  | .action => package.actions

def withMembers (package : Package) (kind : CallableKind)
    (members : OrderedMap Member Declaration) : Package :=
  match kind with
  | .function => { package with functions := members }
  | .action => { package with actions := members }

def find? (package : Package) (kind : CallableKind) (member : Member) : Option Declaration :=
  (package.members kind).find? member

/-- Also tells which declaration was replaced. -/
def insert (package : Package) (declaration : Declaration) : Package × Option Declaration :=
  (package.withMembers declaration.kind
      ((package.members declaration.kind).insert declaration.member declaration),
    package.find? declaration.kind declaration.member)

/-- Also tells which declaration was removed. -/
def erase (package : Package) (kind : CallableKind) (member : Member) :
    Package × Option Declaration :=
  (package.withMembers kind ((package.members kind).erase member), package.find? kind member)

/-- Functions in member order and then actions in member order. -/
def declarations (package : Package) : List Declaration :=
  package.functions.values ++ package.actions.values

def publicFunctions (package : Package) : List Declaration :=
  package.functions.values.filter fun declaration => declaration.visibility = .visible

def privateFunctions (package : Package) : List Declaration :=
  package.functions.values.filter fun declaration => declaration.visibility = .hidden

def size (package : Package) : Nat := package.functions.size + package.actions.size

def isEmpty (package : Package) : Bool := package.functions.isEmpty && package.actions.isEmpty

@[simp]
theorem find?_named (name : Name) (kind : CallableKind) (member : Member) :
    (named name).find? kind member = none := by
  cases kind <;> rfl

@[simp]
theorem name_withMembers (package : Package) (kind : CallableKind)
    (members : OrderedMap Member Declaration) :
    (package.withMembers kind members).name = package.name := by
  cases kind <;> rfl

theorem members_withMembers (package : Package) (kind asked : CallableKind)
    (members : OrderedMap Member Declaration) :
    (package.withMembers kind members).members asked =
      if asked = kind then members else package.members asked := by
  cases kind <;> cases asked <;> rfl

@[simp]
theorem name_insert (package : Package) (declaration : Declaration) :
    (package.insert declaration).1.name = package.name :=
  name_withMembers ..

@[simp]
theorem name_erase (package : Package) (kind : CallableKind) (member : Member) :
    (package.erase kind member).1.name = package.name :=
  name_withMembers ..

theorem find?_insert (package : Package) (declaration : Declaration) (kind : CallableKind)
    (member : Member) :
    (package.insert declaration).1.find? kind member =
      if kind = declaration.kind ∧ member = declaration.member then some declaration
      else package.find? kind member := by
  simp only [find?, insert, members_withMembers]
  by_cases sameKind : kind = declaration.kind
  · subst sameKind
    simp
  · simp [sameKind]

theorem find?_erase (package : Package) (kind asked : CallableKind) (member other : Member) :
    (package.erase kind member).1.find? asked other =
      if asked = kind ∧ other = member then none else package.find? asked other := by
  simp only [find?, erase, members_withMembers]
  by_cases sameKind : asked = kind
  · subst sameKind
    simp
  · simp [sameKind]

theorem erase_of_absent {package : Package} {kind : CallableKind} {member : Member}
    (absent : package.find? kind member = none) : (package.erase kind member).1 = package := by
  unfold erase
  rw [OrderedMap.erase_of_absent absent]
  cases kind <;> rfl

/-- A package is its name and what it answers. -/
theorem ext_find? {left right : Package} (sameName : left.name = right.name)
    (same : ∀ kind member, left.find? kind member = right.find? kind member) : left = right := by
  obtain ⟨leftName, leftFunctions, leftActions⟩ := left
  obtain ⟨rightName, rightFunctions, rightActions⟩ := right
  have functions : leftFunctions = rightFunctions := OrderedMap.ext (same .function)
  have actions : leftActions = rightActions := OrderedMap.ext (same .action)
  cases sameName
  rw [functions, actions]

theorem mem_declarations_iff (package : Package) (declaration : Declaration) :
    declaration ∈ package.declarations ↔
      ∃ kind member, package.find? kind member = some declaration := by
  simp only [declarations, List.mem_append, OrderedMap.mem_values_iff]
  constructor
  · rintro (⟨member, found⟩ | ⟨member, found⟩)
    · exact ⟨.function, member, found⟩
    · exact ⟨.action, member, found⟩
  · rintro ⟨_ | _, member, found⟩
    · exact .inl ⟨member, found⟩
    · exact .inr ⟨member, found⟩

end Package

end NativeBinding
