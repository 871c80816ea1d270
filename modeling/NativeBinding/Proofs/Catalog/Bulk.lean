import NativeBinding.Proofs.Catalog.History
import NativeBinding.Proofs.Catalog.Rebuilding
import NativeBinding.Proofs.Catalog.Unregistration

/-!
# A package at once or one by one

A package can be put in as a whole, or what stood under its name is unregistered and its
declarations are registered one after the other. Each entry is then written once, by the declaration
that belongs there, and each symbol likewise, so the order cannot show. The two ways differ in one
case only: a new package that is empty is there when it was put in as a whole, and nothing else
would create it.
-/

set_option autoImplicit false

namespace NativeBinding.Catalog

/-- What the package of this name holds, if there is one. -/
def heldBy (catalog : Catalog) (name : Name) : List Declaration :=
  (catalog.package? name).elim [] Package.declarations

theorem mem_heldBy_iff (catalog : Catalog) (name : Name) (declaration : Declaration) :
    declaration ∈ catalog.heldBy name ↔
      ∃ kind member, catalog.find? kind name member = some declaration := by
  unfold heldBy find?
  cases catalog.package? name with
  | none => simp
  | some package => exact Package.mem_declarations_iff package declaration

/-- Filed catalogs with the same packages, entries and symbols are the same. -/
theorem eq_of_same_answers {left right : Catalog} (leftFiled : left.Filed)
    (rightFiled : right.Filed)
    (present : ∀ name, (left.package? name).isSome ↔ (right.package? name).isSome)
    (entries : ∀ kind name member, left.find? kind name member = right.find? kind name member)
    (symbols : ∀ signature, left.symbol? signature = right.symbol? signature) : left = right := by
  have packages : left.packages = right.packages := by
    apply OrderedMap.ext
    intro name
    change left.package? name = right.package? name
    have both := present name
    cases leftHeld : left.package? name with
    | none =>
        rw [leftHeld] at both
        cases rightHeld : right.package? name with
        | none => rfl
        | some package =>
            rw [rightHeld] at both
            cases both.2 rfl
    | some leftPackage =>
        rw [leftHeld] at both
        obtain ⟨rightPackage, rightHeld⟩ := Option.isSome_iff_exists.1 (both.1 rfl)
        have leftName := (leftFiled name leftPackage leftHeld).1
        have rightName := (rightFiled name rightPackage rightHeld).1
        have same : leftPackage = rightPackage := by
          apply Package.ext_find? (leftName.trans rightName.symm)
          intro kind member
          have answer := entries kind name member
          unfold find? at answer
          rw [leftHeld, rightHeld] at answer
          exact answer
        rw [rightHeld, same]
  have scope : left.scope = right.scope := OrderedMap.ext symbols
  obtain ⟨_, _⟩ := left
  obtain ⟨_, _⟩ := right
  cases packages
  cases scope
  rfl

section

variable {catalog : Catalog} {kind : CallableKind} {name : Name} {member : Member}
  {steps : List Step}

theorem find_run_untouched
    (untouched : ∀ step ∈ steps, ∀ left, step.leaves? kind name member ≠ some left) :
    (catalog.run steps).find? kind name member = catalog.find? kind name member := by
  have nothing : ∀ step ∈ steps, step.leaves? kind name member = none := by
    intro step listed
    exact Option.eq_none_iff_forall_ne_some.2 (untouched step listed)
  rw [find_run, List.filterMap_eq_nil_iff.2 nothing]
  rfl

/-- Where all steps that touch an entry leave the same, it does not matter which is the last. -/
theorem find_run_settled {left : Option Declaration}
    (touched : ∃ step ∈ steps, step.leaves? kind name member = some left)
    (only : ∀ step ∈ steps, ∀ other, step.leaves? kind name member = some other → other = left) :
    (catalog.run steps).find? kind name member = left := by
  rw [find_run]
  cases last : (steps.filterMap (Step.leaves? kind name member)).getLast? with
  | none =>
      obtain ⟨step, listed, leaves⟩ := touched
      have untouched := List.filterMap_eq_nil_iff.1 (List.getLast?_eq_none_iff.1 last) step listed
      rw [leaves] at untouched
      cases untouched
  | some other =>
      obtain ⟨step, listed, leaves⟩ := List.mem_filterMap.1 (List.mem_of_getLast? last)
      exact only step listed other leaves

end

/-- The steps that register these declarations one after the other. -/
def registering (added : List Declaration) : List Step := added.map .register

/-- The steps that unregister these declarations one after the other. -/
def unregistering (gone : List Declaration) : List Step :=
  gone.map fun declaration => .unregister declaration.kind declaration

section

variable {catalog : Catalog} {gone added : List Declaration} {kind : CallableKind} {asked : Name}
  {member : Member} {step : Step} {left : Option Declaration}

theorem left_by_unregistering (listed : step ∈ unregistering gone)
    (leaves : step.leaves? kind asked member = some left) :
    left = none ∧ ∃ declaration ∈ gone, declaration.package = asked := by
  obtain ⟨declaration, there, rfl⟩ := List.mem_map.1 listed
  rw [Step.leaves?] at leaves
  split at leaves
  · next key =>
      cases leaves
      exact ⟨rfl, declaration, there, key.2.1.symm⟩
  · cases leaves

theorem left_by_registering (listed : step ∈ registering added)
    (leaves : step.leaves? kind asked member = some left) :
    ∃ declaration ∈ added, left = some declaration ∧ kind = declaration.kind ∧
      asked = declaration.package ∧ member = declaration.member := by
  obtain ⟨declaration, there, rfl⟩ := List.mem_map.1 listed
  rw [Step.leaves?] at leaves
  split at leaves
  · next key =>
      cases leaves
      exact ⟨declaration, there, rfl, key⟩
  · cases leaves

/-- Unregistering all that a package holds empties the package and touches no other. -/
theorem find_unregistering (filed : catalog.Filed) {name : Name}
    (every : ∀ declaration, declaration ∈ gone ↔ declaration ∈ catalog.heldBy name) :
    (catalog.run (unregistering gone)).find? kind asked member =
      if asked = name then none else catalog.find? kind asked member := by
  have own : ∀ declaration ∈ gone, declaration.package = name := by
    intro declaration there
    obtain ⟨heldKind, heldMember, found⟩ := (mem_heldBy_iff ..).1 ((every declaration).1 there)
    exact (found_under_own_key filed found).2.1
  by_cases touched : ∃ step ∈ unregistering gone, step.leaves? kind asked member = some none
  · obtain ⟨step, listed, leaves⟩ := touched
    obtain ⟨declaration, there, samePackage⟩ := (left_by_unregistering listed leaves).2
    rw [if_pos (samePackage.symm.trans (own declaration there))]
    apply find_run_settled ⟨step, listed, leaves⟩
    intro other otherListed left otherLeaves
    exact (left_by_unregistering otherListed otherLeaves).1
  · have untouched : ∀ step ∈ unregistering gone, ∀ left,
        step.leaves? kind asked member ≠ some left := by
      intro step listed left leaves
      rw [(left_by_unregistering listed leaves).1] at leaves
      exact touched ⟨step, listed, leaves⟩
    rw [find_run_untouched untouched]
    split
    · next here =>
        subst here
        -- What stood there would be among those unregistered, under just this entry.
        cases found : catalog.find? kind asked member with
        | none => rfl
        | some declaration =>
            have there := (every declaration).2 ((mem_heldBy_iff ..).2 ⟨kind, member, found⟩)
            obtain ⟨sameKind, samePackage, sameMember⟩ := found_under_own_key filed found
            refine absurd ?_ (untouched _ (List.mem_map_of_mem there) none)
            exact if_pos ⟨sameKind.symm, samePackage.symm, sameMember.symm⟩
    · rfl

/-- Registering all that a package holds leaves its entries over those that stood there before. -/
theorem find_registering {package : Package} (filed : package.Filed)
    (every : ∀ declaration, declaration ∈ added ↔ declaration ∈ package.declarations) :
    (catalog.run (registering added)).find? kind asked member =
      (if asked = package.name then package.find? kind member else none).or
        (catalog.find? kind asked member) := by
  have own : ∀ declaration ∈ added, package.find? declaration.kind declaration.member =
      some declaration ∧ declaration.package = package.name := by
    intro declaration there
    exact Package.find_own_entry filed ((every declaration).1 there)
  split
  · next here =>
      subst here
      cases found : package.find? kind member with
      | none =>
          apply find_run_untouched
          intro step listed left leaves
          obtain ⟨declaration, there, -, rfl, -, rfl⟩ := left_by_registering listed leaves
          rw [(own declaration there).1] at found
          cases found
      | some declaration =>
          have listed := (Package.mem_declarations_iff _ declaration).2 ⟨kind, member, found⟩
          have there := (every declaration).2 listed
          obtain ⟨sameKind, sameMember, samePackage⟩ := filed kind member declaration found
          rw [Option.some_or]
          apply find_run_settled
          · refine ⟨.register declaration, List.mem_map_of_mem there, ?_⟩
            rw [Step.leaves?, if_pos ⟨sameKind.symm, samePackage.symm, sameMember.symm⟩]
          · intro step listed left leaves
            obtain ⟨other, otherThere, rfl, rfl, -, rfl⟩ := left_by_registering listed leaves
            rw [(own other otherThere).1] at found
            exact found
  · next elsewhere =>
      apply find_run_untouched
      intro step listed left leaves
      obtain ⟨declaration, there, -, -, here, -⟩ := left_by_registering listed leaves
      exact elsewhere (here.trans (own declaration there).2)

theorem scope_unregistering (catalog : Catalog) (gone : List Declaration) :
    (catalog.run (unregistering gone)).scope = catalog.scope := by
  apply OrderedMap.ext
  intro signature
  unfold run unregistering
  induction gone generalizing catalog with
  | nil => rfl
  | cons declaration rest ih =>
      rw [List.map_cons, List.foldl_cons, ih]
      exact symbol?_unregister ..

theorem scope_registering (catalog : Catalog) (added : List Declaration) :
    (catalog.run (registering added)).scope = catalog.scope.declareAll added := by
  unfold run registering
  induction added generalizing catalog with
  | nil => rfl
  | cons declaration rest ih => exact ih (catalog.register declaration)

theorem named_replacing (name : Name) :
    (∃ step ∈ unregistering gone ++ registering added, step.names? = some name) ↔
      ∃ declaration ∈ added, declaration.package = name := by
  simp only [unregistering, registering, List.mem_append, or_and_right, exists_or, List.mem_map,
    exists_exists_and_eq_and, Step.names?, reduceCtorEq, and_false, exists_false, false_or,
    Option.some.injEq]

end

/-- In whatever order the declarations are taken: replacing a package as a whole comes to the same
as unregistering what it held and registering what it is to hold. An empty package that is new is
the only exception, as no declaration is there to create it. -/
theorem whole_package_as_one_by_one (steps : List Step) (draft : Package.Draft)
    (gone added : List Declaration) (everyGone : gone.Perm ((empty.run steps).heldBy draft.name))
    (everyAdded : added.Perm draft.package.declarations) :
    let before := empty.run steps
    before.registerPackage draft.package =
        before.run (unregistering gone ++ registering added) ↔
      draft.package.declarations ≠ [] ∨ (before.package? draft.name).isSome := by
  intro before
  have coherent : before.Coherent := coherent_run coherent_empty steps
  have own : ∀ declaration ∈ added, declaration.package = draft.name := by
    intro declaration there
    have listed := everyAdded.mem_iff.1 there
    rw [(Package.find_own_entry draft.filed_package listed).2, Package.Draft.name_package]
  have presentWhole : ∀ name, ((before.registerPackage draft.package).package? name).isSome ↔
      some draft.name = some name ∨ (before.package? name).isSome := by
    intro name
    exact present_after name before (.registerPackage draft)
  constructor
  · intro same
    have present := (presentWhole draft.name).2 (.inl rfl)
    rw [same, present_run _ before, named_replacing] at present
    rcases present with ⟨declaration, there, -⟩ | already
    · exact .inl (List.ne_nil_of_mem (everyAdded.mem_iff.1 there))
    · exact .inr already
  · intro creates
    apply eq_of_same_answers
    · exact filed_after coherent.filed (.registerPackage draft)
    · exact (coherent_run coherent _).filed
    · intro name
      rw [presentWhole, present_run _ before (_ ++ _), named_replacing]
      constructor
      · rintro (⟨⟨⟩⟩ | already)
        · rcases creates with some | already
          · obtain ⟨declaration, listed⟩ := List.exists_mem_of_ne_nil _ some
            have there := everyAdded.mem_iff.2 listed
            exact .inl ⟨declaration, there, own declaration there⟩
          · exact .inr already
        · exact .inr already
      · rintro (⟨declaration, there, rfl⟩ | already)
        · exact .inl (congrArg _ (own declaration there).symm)
        · exact .inr already
    · intro kind name member
      rw [find?_registerPackage, run_append,
        find_registering draft.filed_package fun declaration => everyAdded.mem_iff,
        find_unregistering coherent.filed fun declaration => everyGone.mem_iff,
        Package.Draft.name_package]
      by_cases here : name = draft.name
      · rw [if_pos here, if_pos here, if_pos here, Option.or_none]
      · rw [if_neg here, if_neg here, if_neg here, Option.none_or]
    · intro signature
      have scope : (before.run (unregistering gone ++ registering added)).scope =
          before.scope.declareAll draft.package.declarations := by
        rw [run_append, scope_registering, scope_unregistering]
        apply Scope.declareAll_perm everyAdded
        rw [(everyAdded.map _).nodup_iff]
        exact Package.signatures_nodup draft.filed_package
      unfold symbol?
      rw [scope]
      rfl

/-- Goes by a greater name than `getWith` and takes what it takes. -/
def setWith (param : ValueType) : Declaration :=
  (Declaration.function ⟨14⟩ ⟨16⟩).buildAll [.param param]

/-- Replaces both and adds nothing. -/
def getAndSet : Package.Draft :=
  ⟨⟨14⟩, [.insert (setWith .string), .insert (getWith .string)], by decide⟩

theorem get_and_set_replaced :
    let before := empty.run [.register (getWith .int), .register (setWith .int)]
    let gone := [setWith .int, getWith .int]
    let added := [setWith .string, getWith .string]
    gone.Perm (before.heldBy ⟨14⟩) ∧ added.Perm getAndSet.package.declarations ∧
      before.registerPackage getAndSet.package =
        before.run (unregistering gone ++ registering added) ∧
      (before.registerPackage getAndSet.package).symbol? (getWith .int).signature =
        some (getWith .int).symbol := by
  intro before gone added
  have everyGone : gone.Perm (before.heldBy ⟨14⟩) := by decide
  have everyAdded : added.Perm getAndSet.package.declarations := by decide
  have agree := whole_package_as_one_by_one [.register (getWith .int), .register (setWith .int)]
    getAndSet gone added everyGone everyAdded
  exact ⟨everyGone, everyAdded, agree.2 (.inl (by decide)), by decide⟩

end NativeBinding.Catalog
