import NativeBinding.Callable.Catalog
import NativeBinding.Proofs.Package.Draft

/-!
# Runs of catalog operations

A run is a list of operations from an empty or any other catalog. What a catalog holds is read off
its packages; what a scope answers after a list of declarations is decided by the last declaration
with the signature asked for.
-/

set_option autoImplicit false

namespace NativeBinding

namespace Scope

def lastDeclared? (signature : Signature) (declarations : List Declaration) :
    Option Declaration :=
  (declarations.filter fun declaration => declaration.signature = signature).getLast?

theorem last_declared_append (signature : Signature) (first second : List Declaration) :
    lastDeclared? signature (first ++ second) =
      (lastDeclared? signature second).or (lastDeclared? signature first) := by
  unfold lastDeclared?
  rw [List.filter_append, List.getLast?_append]

theorem last_declared_absent {signature : Signature} {declarations : List Declaration}
    (absent : ∀ declaration ∈ declarations, declaration.signature ≠ signature) :
    lastDeclared? signature declarations = none := by
  unfold lastDeclared?
  have nothing : declarations.filter (fun declaration => declaration.signature = signature) =
      [] := by
    rw [List.filter_eq_nil_iff]
    intro declaration listed
    simpa using absent declaration listed
  rw [nothing]
  rfl

theorem last_declared_listed {signature : Signature} {declarations : List Declaration}
    {declaration : Declaration} (last : lastDeclared? signature declarations = some declaration) :
    declaration ∈ declarations ∧ declaration.signature = signature := by
  have inFilter := List.mem_of_getLast? last
  simpa using List.mem_filter.1 inFilter

/-- Where one declaration alone has a signature, the order of the list does not matter. -/
theorem last_declared_unique {declarations : List Declaration} {declaration : Declaration}
    (listed : declaration ∈ declarations)
    (unique : ∀ other ∈ declarations, other.signature = declaration.signature →
      other = declaration) :
    lastDeclared? declaration.signature declarations = some declaration := by
  cases last : lastDeclared? declaration.signature declarations with
  | none =>
      have nothing := List.getLast?_eq_none_iff.1 last
      have notThere := List.filter_eq_nil_iff.1 nothing declaration listed
      simp at notThere
  | some other =>
      obtain ⟨otherListed, same⟩ := last_declared_listed last
      rw [unique other otherListed same]

theorem find?_declareAll (scope : Scope) (declarations : List Declaration)
    (signature : Signature) :
    (scope.declareAll declarations).find? signature =
      ((lastDeclared? signature declarations).map Declaration.symbol).or
        (scope.find? signature) := by
  unfold declareAll
  induction declarations generalizing scope with
  | nil => rfl
  | cons declaration rest ih =>
      rw [List.foldl_cons, ih]
      have split := last_declared_append signature [declaration] rest
      rw [List.singleton_append] at split
      rw [split, declare, OrderedMap.find?_insert]
      cases lastDeclared? signature rest with
      | some last => rfl
      | none =>
          by_cases same : signature = declaration.signature
          · subst same
            simp [lastDeclared?]
          · simp [lastDeclared?, same, Ne.symm same]

end Scope

namespace Catalog

/-- One operation on a catalog. Functions and actions are registered alike, each under its own
kind. An unregistration names the kind and takes package and member from the declaration. -/
inductive Step where
  | register (declaration : Declaration)
  | registerPackage (draft : Package.Draft)
  | unregister (kind : CallableKind) (declaration : Declaration)
  | rebuildScope

def after (catalog : Catalog) : Step → Catalog
  | .register declaration => catalog.register declaration
  | .registerPackage draft => catalog.registerPackage draft.package
  | .unregister kind declaration =>
      catalog.unregister kind declaration.package declaration.member
  | .rebuildScope => catalog.rebuildScope

def run (catalog : Catalog) (steps : List Step) : Catalog := steps.foldl after catalog

theorem run_append (catalog : Catalog) (first second : List Step) :
    catalog.run (first ++ second) = (catalog.run first).run second :=
  List.foldl_append

theorem run_snoc (catalog : Catalog) (steps : List Step) (step : Step) :
    catalog.run (steps ++ [step]) = (catalog.run steps).after step :=
  run_append catalog steps [step]

def Step.declared : Step → List Declaration
  | .register declaration => [declaration]
  | .registerPackage draft => draft.package.declarations
  | .unregister _ _ => []
  | .rebuildScope => []

def Step.isRebuild : Step → Bool
  | .rebuildScope => true
  | _ => false

/-- Outside of a rebuild the scope changes by the step's declarations alone. -/
theorem symbol_after (catalog : Catalog) {step : Step} (keeps : step.isRebuild = false)
    (signature : Signature) :
    (catalog.after step).symbol? signature =
      ((Scope.lastDeclared? signature step.declared).map Declaration.symbol).or
        (catalog.symbol? signature) := by
  cases step with
  | register declaration =>
      exact Scope.find?_declareAll catalog.scope [declaration] signature
  | registerPackage draft =>
      exact Scope.find?_declareAll catalog.scope draft.package.declarations signature
  | unregister kind declaration =>
      exact symbol?_unregister catalog kind declaration.package declaration.member signature
  | rebuildScope => cases keeps

def Holds (catalog : Catalog) (declaration : Declaration) : Prop :=
  ∃ name package, catalog.package? name = some package ∧ declaration ∈ package.declarations

theorem mem_all_declarations_iff (catalog : Catalog) (declaration : Declaration) :
    declaration ∈ catalog.packages.values.flatMap Package.declarations ↔
      catalog.Holds declaration := by
  simp only [List.mem_flatMap, OrderedMap.mem_values_iff]
  constructor
  · rintro ⟨package, ⟨name, present⟩, listed⟩
    exact ⟨name, package, present, listed⟩
  · rintro ⟨name, package, present, listed⟩
    exact ⟨package, ⟨name, present⟩, listed⟩

end Catalog

end NativeBinding
