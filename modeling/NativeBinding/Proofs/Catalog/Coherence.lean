import NativeBinding.Proofs.Catalog.Steps

/-!
# Packages and scope agree

Packages find a declaration by kind and member, the scope finds a symbol by the full signature. The
invariant that ties them is that every declaration a package holds has its own symbol in the scope.
A scope may hold more: symbols of what was unregistered, replaced under another signature or
dropped with its package stay until the scope is rebuilt.
-/

set_option autoImplicit false

namespace NativeBinding.Catalog

/-- Every package stands under its own name and is filed itself. -/
def Filed (catalog : Catalog) : Prop :=
  ∀ name package, catalog.package? name = some package → package.name = name ∧ package.Filed

theorem filed_empty : Filed .empty := by
  intro name package present
  cases present

theorem filed_register {catalog : Catalog} (filed : catalog.Filed) (declaration : Declaration) :
    (catalog.register declaration).Filed := by
  intro name package present
  rw [package?_register] at present
  split at present
  · next same =>
      subst same
      cases present
      cases before : catalog.package? declaration.package with
      | none =>
          refine ⟨Package.name_insert .., ?_⟩
          exact Package.filed_insert (Package.filed_named declaration.package) rfl
      | some held =>
          obtain ⟨named, heldFiled⟩ := filed declaration.package held before
          refine ⟨(Package.name_insert ..).trans named, ?_⟩
          exact Package.filed_insert heldFiled named.symm
  · exact filed name package present

theorem filed_unregister {catalog : Catalog} (filed : catalog.Filed) (kind : CallableKind)
    (package : Name) (member : Member) : (catalog.unregister kind package member).Filed := by
  intro name left present
  rw [package?_unregister] at present
  split at present
  · next same =>
      subst same
      obtain ⟨held, before, rfl⟩ := Option.map_eq_some_iff.1 present
      obtain ⟨named, heldFiled⟩ := filed name held before
      refine ⟨(Package.name_erase ..).trans named, ?_⟩
      exact Package.filed_erase heldFiled kind member
  · exact filed name left present

theorem filed_after {catalog : Catalog} (filed : catalog.Filed) (step : Step) :
    (catalog.after step).Filed := by
  cases step with
  | register declaration => exact filed_register filed declaration
  | registerPackage draft =>
      intro name package present
      have lookup := (package?_registerPackage catalog draft.package name).symm.trans present
      split at lookup
      · next same =>
          cases lookup
          exact ⟨same.symm, draft.filed_package⟩
      · exact filed name package lookup
  | unregister kind declaration =>
      exact filed_unregister filed kind declaration.package declaration.member
  | rebuildScope => exact filed

theorem holds_iff_found {catalog : Catalog} (filed : catalog.Filed) (declaration : Declaration) :
    catalog.Holds declaration ↔
      catalog.find? declaration.kind declaration.package declaration.member =
        some declaration := by
  constructor
  · rintro ⟨name, package, present, listed⟩
    obtain ⟨named, packageFiled⟩ := filed name package present
    obtain ⟨found, own⟩ := Package.find_own_entry packageFiled listed
    have present' : catalog.package? declaration.package = some package := by
      rw [own, named]
      exact present
    unfold find?
    rw [present']
    exact found
  · intro found
    obtain ⟨package, present, entry⟩ := Option.bind_eq_some_iff.1 found
    have listed := (Package.mem_declarations_iff package declaration).2 ⟨_, _, entry⟩
    exact ⟨declaration.package, package, present, listed⟩

def holding? (catalog : Catalog) (signature : Signature) : Option Declaration :=
  (catalog.find? signature.kind signature.package signature.member).filter
    fun declaration => declaration.signature = signature

theorem holding_iff {catalog : Catalog} (filed : catalog.Filed) (signature : Signature)
    (declaration : Declaration) :
    catalog.holding? signature = some declaration ↔
      catalog.Holds declaration ∧ declaration.signature = signature := by
  rw [holds_iff_found filed]
  unfold holding?
  rw [Option.filter_eq_some_iff]
  constructor
  · rintro ⟨found, same⟩
    have same : declaration.signature = signature := by simpa using same
    subst same
    exact ⟨found, rfl⟩
  · rintro ⟨found, same⟩
    subst same
    exact ⟨found, by simp⟩

theorem symbol_rebuildScope {catalog : Catalog} (filed : catalog.Filed) (signature : Signature) :
    catalog.rebuildScope.symbol? signature =
      (catalog.holding? signature).map Declaration.symbol := by
  have lookup : catalog.rebuildScope.symbol? signature =
      ((Scope.lastDeclared? signature
        (catalog.packages.values.flatMap Package.declarations)).map Declaration.symbol).or none :=
    Scope.find?_declareAll .empty _ signature
  rw [lookup, Option.or_none]
  congr 1
  cases held : catalog.holding? signature with
  | none =>
      apply Scope.last_declared_absent
      intro declaration listed same
      have holds := (mem_all_declarations_iff catalog declaration).1 listed
      have found := (holding_iff filed signature declaration).2 ⟨holds, same⟩
      rw [held] at found
      cases found
  | some declaration =>
      obtain ⟨holds, same⟩ := (holding_iff filed signature declaration).1 held
      rw [← same]
      apply Scope.last_declared_unique
      · exact (mem_all_declarations_iff catalog declaration).2 holds
      · intro other listed sameOther
        have otherHolds := (mem_all_declarations_iff catalog other).1 listed
        have found := (holding_iff filed signature other).2 ⟨otherHolds, sameOther.trans same⟩
        rw [held] at found
        exact (Option.some.inj found).symm

/-- What is held after a step came with it or was held before; either way the step brings no other
declaration under the same signature. -/
theorem holds_after {catalog : Catalog} (filed : catalog.Filed) {step : Step}
    {declaration : Declaration} (holds : (catalog.after step).Holds declaration) :
    (declaration ∈ step.declared ∨ catalog.Holds declaration) ∧
      ∀ other ∈ step.declared, other.signature = declaration.signature → other = declaration := by
  have found := (holds_iff_found (filed_after filed step) declaration).1 holds
  cases step with
  | register registered =>
      have lookup := (find?_register catalog registered _ _ _).symm.trans found
      split at lookup
      · cases lookup
        simp [Step.declared]
      · next different =>
          refine ⟨.inr ((holds_iff_found filed declaration).2 lookup), ?_⟩
          intro other brought same
          cases List.mem_singleton.1 brought
          have sameKey : declaration.kind = registered.kind ∧
              declaration.package = registered.package ∧
              declaration.member = registered.member := by
            unfold Declaration.kind Declaration.package Declaration.member
            rw [same]
            exact ⟨rfl, rfl, rfl⟩
          exact absurd sameKey different
  | registerPackage draft =>
      have lookup := (find?_registerPackage catalog draft.package _ _ _).symm.trans found
      split at lookup
      · have listed := (Package.mem_declarations_iff _ _).2 ⟨_, _, lookup⟩
        refine ⟨.inl listed, ?_⟩
        intro other brought same
        have otherFound := (Package.find_own_entry draft.filed_package brought).1
        unfold Declaration.kind Declaration.member at lookup otherFound
        rw [same, lookup] at otherFound
        exact (Option.some.inj otherFound).symm
      · next different =>
          refine ⟨.inr ((holds_iff_found filed declaration).2 lookup), ?_⟩
          intro other brought same
          have own := (Package.find_own_entry draft.filed_package brought).2
          unfold Declaration.package at own different
          rw [same] at own
          exact absurd own different
  | unregister kind gone =>
      have lookup := (find?_unregister catalog kind _ gone.package _ gone.member _).symm.trans found
      split at lookup
      · cases lookup
      · simpa [Step.declared] using (holds_iff_found filed declaration).2 lookup
  | rebuildScope =>
      have before : catalog.Holds declaration := holds
      simpa [Step.declared] using before

/-- The invariant of every run: a filed catalog whose declarations all have their symbols. -/
structure Coherent (catalog : Catalog) : Prop where
  filed : catalog.Filed
  visible : ∀ declaration, catalog.Holds declaration →
    catalog.symbol? declaration.signature = some declaration.symbol

theorem coherent_empty : Coherent .empty where
  filed := filed_empty
  visible := by
    rintro declaration ⟨name, package, present, -⟩
    cases present

theorem coherent_after {catalog : Catalog} (coherent : catalog.Coherent) (step : Step) :
    (catalog.after step).Coherent := by
  refine ⟨filed_after coherent.filed step, ?_⟩
  intro declaration holds
  cases kind : step.isRebuild with
  | true =>
      cases step with
      | rebuildScope =>
          have held := (holding_iff coherent.filed declaration.signature declaration).2
            ⟨holds, rfl⟩
          refine (symbol_rebuildScope coherent.filed declaration.signature).trans ?_
          rw [held]
          rfl
      | _ => cases kind
  | false =>
      obtain ⟨source, unique⟩ := holds_after coherent.filed holds
      rw [symbol_after catalog kind]
      by_cases brought : declaration ∈ step.declared
      · rw [Scope.last_declared_unique brought unique]
        rfl
      · have before := coherent.visible declaration (source.resolve_left brought)
        have absent : ∀ other ∈ step.declared, other.signature ≠ declaration.signature := by
          intro other otherBrought same
          rw [unique other otherBrought same] at otherBrought
          exact brought otherBrought
        rw [Scope.last_declared_absent absent, before]
        rfl

theorem coherent_run {catalog : Catalog} (coherent : catalog.Coherent) (steps : List Step) :
    (catalog.run steps).Coherent := by
  unfold run
  induction steps generalizing catalog with
  | nil => exact coherent
  | cons step rest ih => exact ih (coherent_after coherent step)

/-- A symbol of the scope is that of a declaration which the step brought, or it stood there
before. A rebuild is no exception: it only puts back what was there. -/
theorem symbol_source_after {catalog : Catalog} (coherent : catalog.Coherent) {step : Step}
    {signature : Signature} {symbol : Symbol}
    (present : (catalog.after step).symbol? signature = some symbol) :
    (∃ declaration ∈ step.declared,
      declaration.signature = signature ∧ declaration.symbol = symbol) ∨
      catalog.symbol? signature = some symbol := by
  cases kind : step.isRebuild with
  | true =>
      cases step with
      | rebuildScope =>
          have lookup := (symbol_rebuildScope coherent.filed signature).symm.trans present
          obtain ⟨declaration, held, rfl⟩ := Option.map_eq_some_iff.1 lookup
          obtain ⟨holds, same⟩ := (holding_iff coherent.filed signature declaration).1 held
          rw [← same]
          exact .inr (coherent.visible declaration holds)
      | _ => cases kind
  | false =>
      rw [symbol_after catalog kind] at present
      cases last : Scope.lastDeclared? signature step.declared with
      | none =>
          rw [last] at present
          exact .inr present
      | some declaration =>
          rw [last] at present
          obtain ⟨brought, same⟩ := Scope.last_declared_listed last
          exact .inl ⟨declaration, brought, same, Option.some.inj present⟩

theorem symbol_source_run {catalog : Catalog} (coherent : catalog.Coherent) {steps : List Step}
    {signature : Signature} {symbol : Symbol}
    (present : (catalog.run steps).symbol? signature = some symbol) :
    (∃ declaration ∈ steps.flatMap Step.declared,
      declaration.signature = signature ∧ declaration.symbol = symbol) ∨
      catalog.symbol? signature = some symbol := by
  unfold run at present
  induction steps generalizing catalog with
  | nil => exact .inr present
  | cons step rest ih =>
      rw [List.flatMap_cons]
      rcases ih (coherent_after coherent step) present with ⟨declaration, later, facts⟩ | earlier
      · exact .inl ⟨declaration, List.mem_append_right _ later, facts⟩
      · rcases symbol_source_after coherent earlier with ⟨declaration, now, facts⟩ | before
        · exact .inl ⟨declaration, List.mem_append_left _ now, facts⟩
        · exact .inr before

theorem symbol_of_signature {steps : List Step} {signature : Signature} {symbol : Symbol}
    (present : (empty.run steps).symbol? signature = some symbol) :
    symbol.type.kind = signature.kind ∧ symbol.type.params = signature.params := by
  rcases symbol_source_run coherent_empty present with ⟨declaration, -, same, rfl⟩ | nothing
  · rw [← same]
    exact ⟨rfl, rfl⟩
  · cases nothing

/-- Whatever operations have run, in whatever order: packages stand under their names, entries under
their kind and member, and a held declaration is resolved to its own symbol and to no other. -/
theorem packages_and_scope_agree (steps : List Step) :
    (∀ name package, (empty.run steps).package? name = some package →
      package.name = name ∧
        ∀ kind member declaration, package.find? kind member = some declaration →
          declaration.kind = kind ∧ declaration.package = name ∧ declaration.member = member) ∧
      ∀ declaration, (empty.run steps).Holds declaration →
        (empty.run steps).symbol? declaration.signature = some declaration.symbol := by
  have coherent := coherent_run coherent_empty steps
  refine ⟨?_, coherent.visible⟩
  intro name package present
  obtain ⟨named, packageFiled⟩ := coherent.filed name package present
  refine ⟨named, ?_⟩
  intro kind member declaration found
  obtain ⟨sameKind, sameMember, own⟩ := packageFiled kind member declaration found
  exact ⟨sameKind, own.trans named, sameMember⟩

/-- `pkg:get` with one parameter. -/
def getWith (param : ValueType) : Declaration :=
  (Declaration.function ⟨14⟩ ⟨15⟩).buildAll [.param param, .fallible]

/-- Replaces `get` under another signature, takes it out with the first one, and replaces its
package as a whole before it is registered again. -/
def getReplaced : List Step :=
  [.register (getWith .int), .register (getWith .string),
    .unregister .function (getWith .int),
    .registerPackage ⟨⟨14⟩, [.insert (getWith .string)], by decide⟩, .rebuildScope,
    .register (getWith .blob)]

theorem replaced_entry_agrees :
    ∃ package, (empty.run getReplaced).package? ⟨14⟩ = some package ∧
      package.find? .function ⟨none, ⟨15⟩⟩ = some (getWith .blob) ∧
      package.name = ⟨14⟩ ∧ (getWith .blob).kind = .function ∧
      (empty.run getReplaced).Holds (getWith .blob) ∧
      (empty.run getReplaced).symbol? (getWith .blob).signature = some (getWith .blob).symbol := by
  have agree := packages_and_scope_agree getReplaced
  refine ⟨_, rfl, rfl, ?_⟩
  have filed := (coherent_run coherent_empty getReplaced).filed
  have holds := (holds_iff_found filed (getWith .blob)).2 rfl
  obtain ⟨named, entries⟩ := agree.1 ⟨14⟩ _ rfl
  exact ⟨named, (entries .function ⟨none, ⟨15⟩⟩ _ rfl).1, holds, agree.2 _ holds⟩

end NativeBinding.Catalog
