import Mathlib.Algebra.GroupWithZero.Nat
import Mathlib.Data.List.Perm.Basic
import Mathlib.Data.List.Nodup
import NativeBinding.Proofs.Catalog.Coherence

/-!
# Rebuilding the scope

A rebuilt scope is put together from what the packages hold and nothing else. Packages stand under
their own names and entries under their own members, so no two declarations that are held share a
signature. That is why the order of the packages does not matter and why every declaration has a
symbol of its own; and as what is held has been visible all along, a rebuild only takes symbols
away.
-/

set_option autoImplicit false

namespace NativeBinding

namespace Scope

theorem declare_comm (scope : Scope) {first second : Declaration}
    (different : first.signature ≠ second.signature) :
    (scope.declare first).declare second = (scope.declare second).declare first := by
  apply OrderedMap.ext
  intro signature
  unfold declare
  simp only [OrderedMap.find?_insert]
  by_cases atFirst : signature = first.signature
  · subst atFirst
    simp [different]
  · simp [atFirst]

theorem declareAll_perm {first second : List Declaration} (perm : first.Perm second)
    (distinct : (first.map Declaration.signature).Nodup) (scope : Scope) :
    scope.declareAll first = scope.declareAll second := by
  unfold declareAll
  apply perm.foldl_eq'
  intro one oneListed other otherListed current
  by_cases same : one.signature = other.signature
  · rw [List.inj_on_of_nodup_map distinct oneListed otherListed same]
  · exact declare_comm current same

theorem size_declareAll {declarations : List Declaration}
    (distinct : (declarations.map Declaration.signature).Nodup) {scope : Scope}
    (absent : ∀ declaration ∈ declarations, scope.find? declaration.signature = none) :
    (scope.declareAll declarations).size = scope.size + declarations.length := by
  unfold declareAll
  induction declarations generalizing scope with
  | nil => rfl
  | cons declaration rest ih =>
      rw [List.map_cons, List.nodup_cons] at distinct
      have own : (scope.declare declaration).size = scope.size + 1 :=
        OrderedMap.size_insert_of_absent (absent declaration List.mem_cons_self)
      have later : ∀ other ∈ rest, (scope.declare declaration).find? other.signature = none := by
        intro other listed
        have different : other.signature ≠ declaration.signature := by
          intro same
          rw [← same] at distinct
          exact distinct.1 (List.mem_map_of_mem listed)
        unfold declare
        rw [OrderedMap.find?_insert, if_neg different]
        exact absent other (List.mem_cons_of_mem _ listed)
      rw [List.foldl_cons, ih distinct.2 later, own, List.length_cons]
      omega

end Scope

namespace Package

theorem length_declarations (package : Package) : package.declarations.length = package.size := by
  unfold declarations size OrderedMap.size OrderedMap.values
  rw [List.length_append, List.length_map, List.length_map]

theorem signatures_nodup {package : Package} (filed : package.Filed) :
    (package.declarations.map Declaration.signature).Nodup := by
  -- Within one kind the members differ, as each stands under its own.
  have oneKind : ∀ kind, ((package.members kind).values.map Declaration.signature).Nodup := by
    intro kind
    unfold List.Nodup
    rw [List.pairwise_map]
    apply OrderedMap.pairwise_values
    intro member other declaration held different found otherFound same
    have own := (filed kind member declaration found).2.1
    have otherOwn := (filed kind other held otherFound).2.1
    apply different
    rw [← own, ← otherOwn]
    exact congrArg Signature.member same
  unfold declarations
  rw [List.map_append, List.nodup_append]
  refine ⟨oneKind .function, oneKind .action, ?_⟩
  intro signature inFunctions other inActions same
  obtain ⟨function, functionListed, rfl⟩ := List.mem_map.1 inFunctions
  obtain ⟨action, actionListed, rfl⟩ := List.mem_map.1 inActions
  obtain ⟨member, found⟩ := (OrderedMap.mem_values_iff _ function).1 functionListed
  obtain ⟨otherMember, otherFound⟩ := (OrderedMap.mem_values_iff _ action).1 actionListed
  have isFunction : function.kind = .function := (filed .function member function found).1
  have isAction : action.kind = .action := (filed .action otherMember action otherFound).1
  have sameKind : function.kind = action.kind := congrArg Signature.kind same
  rw [isFunction, isAction] at sameKind
  cases sameKind

end Package

namespace Catalog

def declarations (catalog : Catalog) : List Declaration :=
  catalog.packages.values.flatMap Package.declarations

theorem signatures_nodup {catalog : Catalog} (filed : catalog.Filed) :
    (catalog.declarations.map Declaration.signature).Nodup := by
  unfold declarations List.Nodup
  rw [List.map_flatMap, List.pairwise_flatMap]
  constructor
  · intro package listed
    obtain ⟨name, present⟩ := (catalog.packages.mem_values_iff package).1 listed
    exact Package.signatures_nodup (filed name package present).2
  · apply OrderedMap.pairwise_values
    intro name other package otherPackage different present otherPresent
    obtain ⟨named, packageFiled⟩ := filed name package present
    obtain ⟨otherNamed, otherFiled⟩ := filed other otherPackage otherPresent
    intro signature inPackage otherSignature inOther same
    obtain ⟨declaration, listed, rfl⟩ := List.mem_map.1 inPackage
    obtain ⟨otherDeclaration, otherListed, rfl⟩ := List.mem_map.1 inOther
    have own := (Package.find_own_entry packageFiled listed).2
    have otherOwn := (Package.find_own_entry otherFiled otherListed).2
    apply different
    rw [← named, ← otherNamed, ← own, ← otherOwn]
    exact congrArg Signature.package same

theorem rebuilt_in_any_order {catalog : Catalog} (filed : catalog.Filed)
    {packages : List Package} (perm : packages.Perm catalog.packages.values) :
    Scope.ofPackages packages = catalog.rebuildScope.scope := by
  have declared := perm.flatMap_right Package.declarations
  apply Scope.declareAll_perm declared
  exact (declared.map Declaration.signature).nodup_iff.2 (signatures_nodup filed)

theorem rebuilt_exactly_held {catalog : Catalog} (filed : catalog.Filed)
    (signature : Signature) :
    (catalog.rebuildScope.symbol? signature).isSome ↔
      ∃ declaration, catalog.Holds declaration ∧ declaration.signature = signature := by
  rw [symbol_rebuildScope filed, Option.isSome_map, Option.isSome_iff_exists]
  apply exists_congr
  exact holding_iff filed signature

theorem rebuilt_only_shrinks {catalog : Catalog} (coherent : catalog.Coherent)
    {signature : Signature} {symbol : Symbol}
    (stays : catalog.rebuildScope.symbol? signature = some symbol) :
    catalog.symbol? signature = some symbol := by
  rw [symbol_rebuildScope coherent.filed] at stays
  obtain ⟨declaration, held, rfl⟩ := Option.map_eq_some_iff.1 stays
  obtain ⟨holds, rfl⟩ := (holding_iff coherent.filed signature declaration).1 held
  exact coherent.visible declaration holds

theorem rebuilt_size {catalog : Catalog} (filed : catalog.Filed) :
    catalog.rebuildScope.scope.size = (catalog.packages.values.map Package.size).sum := by
  have counted : catalog.rebuildScope.scope.size = 0 + catalog.declarations.length :=
    Scope.size_declareAll (signatures_nodup filed) fun _ _ => rfl
  rw [counted, Nat.zero_add, declarations, List.length_flatMap]
  simp only [Package.length_declarations]

/-- Whatever has run before, a rebuild gives one scope in whatever order it takes the packages. The
scope has the symbols of exactly the declarations that are held, all of them as they stood before,
and one for each, as no two share a signature. The packages stay, so rebuilding again does
nothing. -/
theorem rebuild_keeps_the_held (steps : List Step) :
    let before := empty.run steps
    let after := before.rebuildScope
    (∀ packages : List Package, packages.Perm before.packages.values →
      Scope.ofPackages packages = after.scope) ∧
      (∀ signature, (after.symbol? signature).isSome ↔
        ∃ declaration, before.Holds declaration ∧ declaration.signature = signature) ∧
      (∀ signature symbol, after.symbol? signature = some symbol →
        before.symbol? signature = some symbol) ∧
      after.scope.size = (before.packages.values.map Package.size).sum ∧
      (before.declarations.map Declaration.signature).Nodup ∧
      after.rebuildScope = after ∧
      after.packages = before.packages := by
  intro before after
  have coherent : before.Coherent := coherent_run coherent_empty steps
  refine ⟨?_, rebuilt_exactly_held coherent.filed, ?_, rebuilt_size coherent.filed,
    signatures_nodup coherent.filed, rfl, rfl⟩
  · intro packages perm
    exact rebuilt_in_any_order coherent.filed perm
  · intro signature symbol stays
    exact rebuilt_only_shrinks coherent stays

/-- An action with the name that `getWith` uses, in another package. -/
def getAction : Declaration := (Declaration.action ⟨16⟩ ⟨⟨16⟩, ⟨17⟩⟩ ⟨15⟩).buildAll [.param .string]

/-- Leaves the symbol of a replaced declaration in the scope, next to those of two packages. -/
def replacedBeside : List Step :=
  [.register (getWith .int), .register getAction, .register (getWith .string)]

theorem stale_symbol_dropped :
    let before := empty.run replacedBeside
    let after := before.rebuildScope
    Scope.ofPackages before.packages.values.reverse = after.scope ∧
      before.scope.size = 3 ∧ after.scope.size = 2 ∧
      before.symbol? (getWith .int).signature = some (getWith .int).symbol ∧
      after.symbol? (getWith .int).signature = none ∧
      after.symbol? getAction.signature = some getAction.symbol ∧
      before.symbol? getAction.signature = some getAction.symbol := by
  intro before after
  obtain ⟨anyOrder, -, shrinks, size, -⟩ := rebuild_keeps_the_held replacedBeside
  have action : after.symbol? getAction.signature = some getAction.symbol := by decide
  exact ⟨anyOrder _ (List.reverse_perm _), by decide, size, by decide, by decide, action,
    shrinks _ _ action⟩

end Catalog

end NativeBinding
