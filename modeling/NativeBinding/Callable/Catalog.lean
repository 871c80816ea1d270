import NativeBinding.Callable.Package
import NativeBinding.Callable.Symbol

/-!
# The catalog of packages and its scope

Registering puts a declaration into its package and its symbol into the scope. Unregistering
touches the package only: the symbol stays in the scope, for whoever has resolved it, until the
scope is rebuilt from the packages. Lookups never create a package.
-/

set_option autoImplicit false

namespace NativeBinding

/-- Symbols by their full signature. -/
abbrev Scope := OrderedMap Signature Symbol

namespace Scope

def declare (scope : Scope) (declaration : Declaration) : Scope :=
  scope.insert declaration.signature declaration.symbol

def declareAll (scope : Scope) (declarations : List Declaration) : Scope :=
  declarations.foldl declare scope

/-- The scope of exactly the declarations that the packages hold. -/
def ofPackages (packages : List Package) : Scope :=
  declareAll .empty (packages.flatMap Package.declarations)

end Scope

structure Catalog where
  packages : OrderedMap Name Package
  scope : Scope
  deriving DecidableEq

namespace Catalog

def empty : Catalog := ⟨.empty, .empty⟩

def package? (catalog : Catalog) (name : Name) : Option Package := catalog.packages.find? name

/-- The declaration that a package holds for a member. -/
def find? (catalog : Catalog) (kind : CallableKind) (package : Name) (member : Member) :
    Option Declaration :=
  (catalog.package? package).bind fun held => held.find? kind member

/-- Creates the package if need be; the last declaration of a member wins. -/
def register (catalog : Catalog) (declaration : Declaration) : Catalog :=
  let package := (catalog.package? declaration.package).getD (.named declaration.package)
  { packages := catalog.packages.insert declaration.package (package.insert declaration).1
    scope := catalog.scope.declare declaration }

/-- Replaces a package of the same name as a whole. Symbols of the replaced one stay. -/
def registerPackage (catalog : Catalog) (package : Package) : Catalog :=
  { packages := catalog.packages.insert package.name package
    scope := catalog.scope.declareAll package.declarations }

/-- Removes the entry of a kind and member, whatever parameters it was declared with. -/
def unregister (catalog : Catalog) (kind : CallableKind) (package : Name) (member : Member) :
    Catalog :=
  match catalog.package? package with
  | none => catalog
  | some held =>
      { catalog with packages := catalog.packages.insert package (held.erase kind member).1 }

/-- The only way for symbols to leave the scope. -/
def rebuildScope (catalog : Catalog) : Catalog :=
  { catalog with scope := .ofPackages catalog.packages.values }

def symbol? (catalog : Catalog) (signature : Signature) : Option Symbol :=
  catalog.scope.find? signature

/-- Of a function and an action with one member and parameter list the function wins. -/
def callee? (catalog : Catalog) (package : Name) (member : Member) (args : List ValueType) :
    Option Symbol :=
  match catalog.symbol? ⟨.function, package, member, args⟩ with
  | some symbol => some symbol
  | none => catalog.symbol? ⟨.action, package, member, args⟩

/-- A symbol found by its arguments stands under one of two signatures with just these, the action's
only if the function's is free. -/
theorem callee?_eq_some_iff (catalog : Catalog) (package : Name) (member : Member)
    (args : List ValueType) (symbol : Symbol) :
    catalog.callee? package member args = some symbol ↔
      catalog.symbol? ⟨.function, package, member, args⟩ = some symbol ∨
        (catalog.symbol? ⟨.function, package, member, args⟩ = none ∧
          catalog.symbol? ⟨.action, package, member, args⟩ = some symbol) := by
  unfold callee?
  cases catalog.symbol? ⟨.function, package, member, args⟩ <;> simp

theorem package?_register (catalog : Catalog) (declaration : Declaration) (name : Name) :
    (catalog.register declaration).package? name =
      if name = declaration.package then
        some (((catalog.package? declaration.package).getD (.named declaration.package)).insert
          declaration).1
      else catalog.package? name :=
  OrderedMap.find?_insert ..

theorem package?_registerPackage (catalog : Catalog) (package : Package) (name : Name) :
    (catalog.registerPackage package).package? name =
      if name = package.name then some package else catalog.package? name :=
  OrderedMap.find?_insert ..

theorem package?_unregister (catalog : Catalog) (kind : CallableKind) (package name : Name)
    (member : Member) :
    (catalog.unregister kind package member).package? name =
      if name = package then
        (catalog.package? package).map fun held => (held.erase kind member).1
      else catalog.package? name := by
  unfold unregister
  cases present : catalog.package? package with
  | none =>
      by_cases same : name = package
      · simp [same, present]
      · simp [same]
  | some held => exact OrderedMap.find?_insert ..

theorem unregister_of_absent {catalog : Catalog} {kind : CallableKind} {package : Name}
    {member : Member} (absent : catalog.find? kind package member = none) :
    catalog.unregister kind package member = catalog := by
  unfold unregister
  cases present : catalog.package? package with
  | none => rfl
  | some held =>
      unfold find? at absent
      rw [present] at absent
      dsimp only
      rw [Package.erase_of_absent absent, OrderedMap.insert_of_found present]

@[simp]
theorem package?_rebuildScope (catalog : Catalog) (name : Name) :
    catalog.rebuildScope.package? name = catalog.package? name := rfl

theorem find?_register (catalog : Catalog) (declaration : Declaration) (kind : CallableKind)
    (package : Name) (member : Member) :
    (catalog.register declaration).find? kind package member =
      if kind = declaration.kind ∧ package = declaration.package ∧ member = declaration.member
      then some declaration
      else catalog.find? kind package member := by
  simp only [find?, package?_register]
  by_cases same : package = declaration.package
  · subst same
    cases present : catalog.package? declaration.package <;> simp [Package.find?_insert]
  · simp [same]

theorem find?_registerPackage (catalog : Catalog) (registered : Package) (kind : CallableKind)
    (package : Name) (member : Member) :
    (catalog.registerPackage registered).find? kind package member =
      if package = registered.name then registered.find? kind member
      else catalog.find? kind package member := by
  simp only [find?, package?_registerPackage]
  by_cases same : package = registered.name <;> simp [same]

theorem find?_unregister (catalog : Catalog) (kind asked : CallableKind) (package name : Name)
    (member other : Member) :
    (catalog.unregister kind package member).find? asked name other =
      if asked = kind ∧ name = package ∧ other = member then none
      else catalog.find? asked name other := by
  simp only [find?, package?_unregister]
  by_cases same : name = package
  · subst same
    cases present : catalog.package? name <;> simp [Package.find?_erase]
  · simp [same]

@[simp]
theorem find?_rebuildScope (catalog : Catalog) (kind : CallableKind) (package : Name)
    (member : Member) :
    catalog.rebuildScope.find? kind package member = catalog.find? kind package member := rfl

theorem symbol?_register (catalog : Catalog) (declaration : Declaration)
    (signature : Signature) :
    (catalog.register declaration).symbol? signature =
      if signature = declaration.signature then some declaration.symbol
      else catalog.symbol? signature :=
  OrderedMap.find?_insert ..

@[simp]
theorem symbol?_unregister (catalog : Catalog) (kind : CallableKind) (package : Name)
    (member : Member) (signature : Signature) :
    (catalog.unregister kind package member).symbol? signature = catalog.symbol? signature := by
  unfold unregister
  cases catalog.package? package <;> rfl

end Catalog

end NativeBinding
