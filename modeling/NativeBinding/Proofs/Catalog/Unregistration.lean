import NativeBinding.Proofs.Catalog.Coherence

/-!
# Unregistering what is not held

A package finds its entries by kind and member, so that is all an unregistration goes by. Where
nothing stands under them it changes nothing. Where a declaration with other parameters stands, that
declaration is taken out instead: its symbol is left, and the next rebuild drops it.
-/

set_option autoImplicit false

namespace NativeBinding.Catalog

theorem found_under_own_key {catalog : Catalog} (filed : catalog.Filed) {kind : CallableKind}
    {package : Name} {member : Member} {declaration : Declaration}
    (found : catalog.find? kind package member = some declaration) :
    declaration.kind = kind ∧ declaration.package = package ∧ declaration.member = member := by
  obtain ⟨held, present, entry⟩ := Option.bind_eq_some_iff.1 found
  obtain ⟨named, heldFiled⟩ := filed package held present
  obtain ⟨sameKind, sameMember, own⟩ := heldFiled kind member declaration entry
  exact ⟨sameKind, own.trans named, sameMember⟩

theorem held_of_found {catalog : Catalog} (filed : catalog.Filed) {kind : CallableKind}
    {package : Name} {member : Member} {declaration : Declaration}
    (found : catalog.find? kind package member = some declaration) : catalog.Holds declaration := by
  obtain ⟨sameKind, samePackage, sameMember⟩ := found_under_own_key filed found
  apply (holds_iff_found filed declaration).2
  rw [sameKind, samePackage, sameMember]
  exact found

/-- A signature is held by none exactly where the entry under its kind, package and member is empty
or has other parameters. -/
theorem not_held_iff {catalog : Catalog} (filed : catalog.Filed) (signature : Signature) :
    (∀ declaration, catalog.Holds declaration → declaration.signature ≠ signature) ↔
      catalog.holding? signature = none := by
  rw [Option.eq_none_iff_forall_ne_some]
  constructor
  · intro absent declaration held
    obtain ⟨holds, same⟩ := (holding_iff filed signature declaration).1 held
    exact absent declaration holds same
  · intro absent declaration holds same
    exact absent declaration ((holding_iff filed signature declaration).2 ⟨holds, same⟩)

theorem symbol_lost_at_rebuild {catalog : Catalog} (filed : catalog.Filed) {signature : Signature}
    (gone : catalog.find? signature.kind signature.package signature.member = none) :
    catalog.rebuildScope.symbol? signature = none := by
  rw [symbol_rebuildScope filed]
  unfold holding?
  rw [gone]
  rfl

/-- A declaration found under the key of another one differs from it in its parameters, if it
differs in its signature at all. -/
theorem other_params {found gone : Declaration} (sameKind : found.kind = gone.kind)
    (samePackage : found.package = gone.package) (sameMember : found.member = gone.member)
    (different : found.signature ≠ gone.signature) : found.params ≠ gone.params := by
  intro sameParams
  apply different
  obtain ⟨⟨_, _, _, _⟩, _, _, _⟩ := found
  obtain ⟨⟨_, _, _, _⟩, _, _, _⟩ := gone
  cases sameKind
  cases samePackage
  cases sameMember
  cases sameParams
  rfl

/-- Unregistering a declaration that no package holds changes nothing if its entry is empty. If the
entry holds the member with other parameters, exactly that entry is emptied, and the symbol of what
stood there is gone after the next rebuild. -/
theorem unregistration_takes_the_member (steps : List Step) (gone : Declaration)
    (absent : ∀ held, (empty.run steps).Holds held → held.signature ≠ gone.signature) :
    let before := empty.run steps
    let after := before.after (.unregister gone.kind gone)
    (before.find? gone.kind gone.package gone.member = none → after = before) ∧
      (∀ held, before.find? gone.kind gone.package gone.member = some held →
        held.params ≠ gone.params ∧ before.Holds held ∧ ¬after.Holds held ∧
          after.rebuildScope.symbol? held.signature = none) ∧
      (∀ kind package member,
        ¬(kind = gone.kind ∧ package = gone.package ∧ member = gone.member) →
          after.find? kind package member = before.find? kind package member) ∧
      ∀ signature, after.symbol? signature = before.symbol? signature := by
  intro before after
  have filed : before.Filed := (coherent_run coherent_empty steps).filed
  have filedAfter : after.Filed := filed_after filed (.unregister gone.kind gone)
  have entries (kind : CallableKind) (package : Name) (member : Member) :
      after.find? kind package member =
        if kind = gone.kind ∧ package = gone.package ∧ member = gone.member then none
        else before.find? kind package member :=
    find?_unregister before gone.kind kind gone.package package gone.member member
  refine ⟨unregister_of_absent, ?_, ?_, ?_⟩
  · intro held found
    have holds := held_of_found filed found
    obtain ⟨sameKind, samePackage, sameMember⟩ := found_under_own_key filed found
    have emptied : after.find? held.kind held.package held.member = none := by
      rw [entries, if_pos ⟨sameKind, samePackage, sameMember⟩]
    refine ⟨?_, holds, ?_, symbol_lost_at_rebuild filedAfter emptied⟩
    · exact other_params sameKind samePackage sameMember (absent held holds)
    · rw [holds_iff_found filedAfter, emptied]
      simp
  · intro kind package member other
    rw [entries, if_neg other]
  · exact symbol?_unregister before gone.kind gone.package gone.member

/-- `get` is registered for texts only, and unregistered for numbers. -/
theorem member_taken_with_other_params :
    let before := empty.run [.register (getWith .string)]
    let after := before.after (.unregister .function (getWith .int))
    (∀ held, before.Holds held → held.signature ≠ (getWith .int).signature) ∧
      before.Holds (getWith .string) ∧ ¬after.Holds (getWith .string) ∧
      before.rebuildScope.symbol? (getWith .string).signature = some (getWith .string).symbol ∧
      after.rebuildScope.symbol? (getWith .string).signature = none := by
  intro before after
  have filed := (coherent_run coherent_empty [.register (getWith .string)]).filed
  have absent := (not_held_iff filed (getWith .int).signature).2 (by decide)
  obtain ⟨-, taken, -⟩ :=
    unregistration_takes_the_member [.register (getWith .string)] (getWith .int) absent
  obtain ⟨-, held, notHeld, lost⟩ := taken (getWith .string) (by decide)
  exact ⟨absent, held, notHeld, by decide, lost⟩

theorem unheld_can_take_another :
    ¬∀ (steps : List Step) (gone : Declaration),
      (∀ held, (empty.run steps).Holds held → held.signature ≠ gone.signature) →
        let before := empty.run steps
        let after := before.after (.unregister gone.kind gone)
        (∀ kind package member,
          after.find? kind package member = before.find? kind package member) ∧
          ∀ signature, after.symbol? signature = before.symbol? signature := by
  intro neutral
  have filed := (coherent_run coherent_empty [.register (getWith .string)]).filed
  have absent := (not_held_iff filed (getWith .int).signature).2 (by decide)
  obtain ⟨sameEntries, -⟩ := neutral [.register (getWith .string)] (getWith .int) absent
  have same := sameEntries .function (getWith .string).package (getWith .string).member
  exact absurd same (by decide)

end NativeBinding.Catalog
