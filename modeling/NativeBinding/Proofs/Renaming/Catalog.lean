import NativeBinding.Proofs.Catalog.History
import NativeBinding.Proofs.Renaming.Basic

/-!
# Catalogs under a renaming

A catalog that has run the same steps under other names holds the renamed entries and answers with
the renamed symbols. What packages and scopes list comes in the order of names, so their listings
do not correspond; but packages are filed, and then no answer depends on that order.
-/

set_option autoImplicit false

namespace NativeBinding

variable {r : Name → Name}

namespace Package

def Edit.names : Edit → List Name
  | insert declaration => declaration.names
  | erase _ member => member.names

def Edit.rename (r : Name → Name) : Edit → Edit
  | insert declaration => insert (declaration.rename r)
  | erase kind member => erase kind (member.rename r)

theorem within_rename {name : Name} {edit : Edit} (within : edit.Within name) :
    (edit.rename r).Within (r name) := by
  cases edit with
  | insert declaration => exact congrArg r within
  | erase kind member => trivial

def Draft.names (draft : Draft) : List Name := draft.name :: draft.edits.flatMap Edit.names

def Draft.rename (r : Name → Name) (draft : Draft) : Draft where
  name := r draft.name
  edits := draft.edits.map (Edit.rename r)
  within := by
    intro edit listed
    obtain ⟨original, member, rfl⟩ := List.mem_map.1 listed
    exact within_rename (draft.within original member)

def Renamed (r : Name → Name) (first second : Package) : Prop :=
  ∀ kind member, second.find? kind (member.rename r) =
    (first.find? kind member).map (Declaration.rename r)

theorem renamed_edit (injective : Function.Injective r) {first second : Package}
    (renamed : Renamed r first second) (edit : Edit) :
    Renamed r (first.edit edit) (second.edit (edit.rename r)) := by
  intro kind member
  cases edit with
  | insert declaration =>
      simp only [Package.edit, Edit.rename, find?_insert, Declaration.kind_rename,
        Declaration.member_rename, (Member.rename_injective injective).eq_iff]
      split
      · rfl
      · exact renamed kind member
  | erase gone other =>
      simp only [Package.edit, Edit.rename, find?_erase,
        (Member.rename_injective injective).eq_iff]
      split
      · rfl
      · exact renamed kind member

theorem renamed_editAll (injective : Function.Injective r) {first second : Package}
    (renamed : Renamed r first second) (edits : List Edit) :
    Renamed r (first.editAll edits) (second.editAll (edits.map (Edit.rename r))) := by
  unfold editAll
  induction edits generalizing first second with
  | nil => exact renamed
  | cons edit rest ih => exact ih (renamed_edit injective renamed edit)

theorem renamed_draft (injective : Function.Injective r) (draft : Draft) :
    Renamed r draft.package (draft.rename r).package := by
  apply renamed_editAll injective
  intro kind member
  rw [find?_named, find?_named]
  rfl

/-- In a filed package at most one entry has a given signature, wherever it is listed. -/
theorem last_declared_of_filed {package : Package} (filed : package.Filed)
    (signature : Signature) :
    Scope.lastDeclared? signature package.declarations =
      (package.find? signature.kind signature.member).filter
        fun declaration => declaration.signature = signature := by
  have entry : ∀ declaration ∈ package.declarations, declaration.signature = signature →
      package.find? signature.kind signature.member = some declaration := by
    rintro declaration listed rfl
    exact (find_own_entry filed listed).1
  cases kept : (package.find? signature.kind signature.member).filter
      fun declaration => declaration.signature = signature with
  | none =>
      apply Scope.last_declared_absent
      intro declaration listed same
      rw [entry declaration listed same] at kept
      simp [same] at kept
  | some declaration =>
      obtain ⟨found, same⟩ := Option.filter_eq_some_iff.1 kept
      have same : declaration.signature = signature := by simpa using same
      rw [← same]
      have listed := (mem_declarations_iff package declaration).2 ⟨_, _, found⟩
      apply Scope.last_declared_unique listed
      intro other listed sameOther
      rw [entry other listed (sameOther.trans same)] at found
      exact Option.some.inj found

theorem inserted_of_found {package : Package} {edits : List Edit} {kind : CallableKind}
    {member : Member} {declaration : Declaration}
    (found : (package.editAll edits).find? kind member = some declaration) :
    .insert declaration ∈ edits ∨ package.find? kind member = some declaration := by
  unfold editAll at found
  induction edits generalizing package with
  | nil => exact .inr found
  | cons edit rest ih =>
      rcases ih found with later | earlier
      · exact .inl (List.mem_cons_of_mem edit later)
      · cases edit with
        | insert inserted =>
            rw [Package.edit, find?_insert] at earlier
            split at earlier
            · cases earlier
              exact .inl List.mem_cons_self
            · exact .inr earlier
        | erase gone other =>
            rw [Package.edit, find?_erase] at earlier
            split at earlier
            · cases earlier
            · exact .inr earlier

theorem Draft.inserted_of_listed {draft : Draft} {declaration : Declaration}
    (listed : declaration ∈ draft.package.declarations) : .insert declaration ∈ draft.edits := by
  obtain ⟨kind, member, found⟩ := (mem_declarations_iff draft.package declaration).1 listed
  rcases inserted_of_found found with inserted | nothing
  · exact inserted
  · rw [find?_named] at nothing
    cases nothing

end Package

namespace Catalog

namespace Step

def names : Step → List Name
  | register declaration => declaration.names
  | registerPackage draft => draft.names
  | unregister _ declaration => declaration.names
  | rebuildScope => []

def rename (r : Name → Name) : Step → Step
  | register declaration => register (declaration.rename r)
  | registerPackage draft => registerPackage (draft.rename r)
  | unregister kind declaration => unregister kind (declaration.rename r)
  | rebuildScope => rebuildScope

theorem isRebuild_rename (step : Step) : (step.rename r).isRebuild = step.isRebuild := by
  cases step <;> rfl

theorem names?_rename (step : Step) : (step.rename r).names? = step.names?.map r := by
  cases step <;> rfl

theorem leaves_rename (injective : Function.Injective r) (step : Step) (kind : CallableKind)
    (package : Name) (member : Member) :
    (step.rename r).leaves? kind (r package) (member.rename r) =
      (step.leaves? kind package member).map (Option.map (Declaration.rename r)) := by
  cases step with
  | register declaration =>
      simp only [rename, leaves?, Declaration.kind_rename, Declaration.package_rename,
        Declaration.member_rename, injective.eq_iff, (Member.rename_injective injective).eq_iff]
      split <;> rfl
  | registerPackage draft =>
      simp only [rename, leaves?, Package.Draft.rename, injective.eq_iff]
      split
      · exact congrArg some (Package.renamed_draft injective draft kind member)
      · rfl
  | unregister gone declaration =>
      simp only [rename, leaves?, Declaration.package_rename, Declaration.member_rename,
        injective.eq_iff, (Member.rename_injective injective).eq_iff]
      split <;> rfl
  | rebuildScope => rfl

theorem last_declared_rename (injective : Function.Injective r) (step : Step)
    (signature : Signature) :
    Scope.lastDeclared? (signature.rename r) (step.rename r).declared =
      (Scope.lastDeclared? signature step.declared).map (Declaration.rename r) := by
  have same : ∀ declaration : Declaration, (declaration.rename r).signature = signature.rename r ↔
      declaration.signature = signature :=
    fun declaration => (Signature.rename_injective injective).eq_iff
  cases step with
  | register declaration =>
      simp only [rename, declared, Scope.lastDeclared?, List.filter_cons, same]
      split <;> rfl
  | registerPackage draft =>
      have found := Package.renamed_draft injective draft signature.kind signature.member
      simp only [rename, declared]
      -- The two packages list their entries in different orders.
      rw [Package.last_declared_of_filed (draft.rename r).filed_package,
        Package.last_declared_of_filed draft.filed_package]
      refine (congrArg _ found).trans ?_
      cases draft.package.find? signature.kind signature.member with
      | none => rfl
      | some declaration =>
          simp only [Option.map_some, Option.filter_some, same]
          split <;> rfl
  | unregister kind declaration => rfl
  | rebuildScope => rfl

theorem names_declared {step : Step} {declaration : Declaration}
    (brought : declaration ∈ step.declared) : declaration.names ⊆ step.names := by
  cases step with
  | register registered =>
      rw [List.mem_singleton.1 brought]
      exact List.Subset.refl _
  | registerPackage draft =>
      have inserted := Package.Draft.inserted_of_listed brought
      intro name mentioned
      exact List.mem_cons_of_mem _ (List.mem_flatMap.2 ⟨_, inserted, mentioned⟩)
  | unregister kind gone => cases brought
  | rebuildScope => cases brought

end Step

/-- Asked under the new names, the second catalog answers what the first one does, renamed. -/
structure Renamed (r : Name → Name) (first second : Catalog) : Prop where
  present : ∀ name, (second.package? (r name)).isSome ↔ (first.package? name).isSome
  entry : ∀ kind package member, second.find? kind (r package) (member.rename r) =
    (first.find? kind package member).map (Declaration.rename r)
  symbol : ∀ signature, second.symbol? (signature.rename r) =
    (first.symbol? signature).map (Symbol.rename r)

theorem renamed_empty : Renamed r .empty .empty where
  present := fun _ => Iff.rfl
  entry := fun _ _ _ => rfl
  symbol := fun _ => rfl

section

variable {first second : Catalog}

theorem holding_rename (injective : Function.Injective r) (renamed : Renamed r first second)
    (signature : Signature) :
    second.holding? (signature.rename r) =
      (first.holding? signature).map (Declaration.rename r) := by
  unfold holding?
  have entry := renamed.entry signature.kind signature.package signature.member
  refine (congrArg _ entry).trans ?_
  cases first.find? signature.kind signature.package signature.member with
  | none => rfl
  | some declaration =>
      simp only [Option.map_some, Option.filter_some, Declaration.signature_rename,
        (Signature.rename_injective injective).eq_iff]
      split <;> rfl

theorem symbols_rename (held : Option Declaration) :
    (held.map (Declaration.rename r)).map Declaration.symbol =
      (held.map Declaration.symbol).map (Symbol.rename r) := by
  cases held with
  | none => rfl
  | some declaration => exact congrArg some declaration.symbol_rename

theorem renamed_after (injective : Function.Injective r) (firstFiled : first.Filed)
    (secondFiled : second.Filed) (renamed : Renamed r first second) (step : Step) :
    Renamed r (first.after step) (second.after (step.rename r)) where
  present := by
    intro name
    rw [present_after, present_after, Step.names?_rename, renamed.present name]
    simp only [Option.map_eq_some_iff, injective.eq_iff, exists_eq_right]
  entry := by
    intro kind package member
    rw [find_after, find_after, Step.leaves_rename injective, renamed.entry]
    cases step.leaves? kind package member <;> rfl
  symbol := by
    intro signature
    cases kind : step.isRebuild with
    | true =>
        cases step with
        | rebuildScope =>
            -- The rebuilds go through the packages in different orders, but what is held for a
            -- signature is found without going through them.
            refine (symbol_rebuildScope secondFiled (signature.rename r)).trans ?_
            rw [holding_rename injective renamed, symbols_rename,
              ← symbol_rebuildScope firstFiled signature]
            rfl
        | _ => cases kind
    | false =>
        have keeps : (step.rename r).isRebuild = false := by rw [Step.isRebuild_rename, kind]
        rw [symbol_after first kind, symbol_after second keeps,
          Step.last_declared_rename injective, symbols_rename, renamed.symbol]
        cases Scope.lastDeclared? signature step.declared <;> rfl

theorem renamed_run (injective : Function.Injective r) (firstFiled : first.Filed)
    (secondFiled : second.Filed) (renamed : Renamed r first second) (steps : List Step) :
    Renamed r (first.run steps) (second.run (steps.map (Step.rename r))) := by
  unfold run
  induction steps generalizing first second with
  | nil => exact renamed
  | cons step rest ih =>
      exact ih (filed_after firstFiled step) (filed_after secondFiled (step.rename r))
        (renamed_after injective firstFiled secondFiled renamed step)

end

/-- What is held was declared by a step and mentions only names of the steps. -/
theorem names_held {catalog : Catalog} (filed : catalog.Filed) {steps : List Step}
    {declaration : Declaration} (holds : (catalog.run steps).Holds declaration) :
    declaration.names ⊆ steps.flatMap Step.names ∨ catalog.Holds declaration := by
  unfold run at holds
  induction steps generalizing catalog with
  | nil => exact .inr holds
  | cons step rest ih =>
      rw [List.flatMap_cons]
      rcases ih (filed_after filed step) holds with later | earlier
      · exact .inl (List.subset_append_of_subset_right step.names later)
      · rcases (holds_after filed earlier).1 with brought | before
        · exact .inl (List.subset_append_of_subset_left _ (Step.names_declared brought))
        · exact .inr before

end Catalog

namespace CallError

def rename (r : Name → Name) : CallError → CallError
  | unknownPackage => unknownPackage
  | unknownMember => unknownMember
  | argumentCount held => argumentCount (held.rename r)
  | argumentTypes held => argumentTypes (held.rename r)

/-- What the package has under the called member, where that is all there is. -/
def held? : CallError → Option Declaration
  | unknownPackage | unknownMember => none
  | argumentCount held | argumentTypes held => some held

theorem diagnostic_rename {first second : Spelling} (span : Span) {call : Call}
    {error : CallError} (called : Respells r first second call.names)
    (held : ∀ declaration ∈ error.held?, Respells r first second declaration.signature.names) :
    (error.rename r).diagnostic second span (call.rename r) =
      error.diagnostic first span call := by
  obtain ⟨place, args⟩ := respells_append.1 called
  have qualified : (call.rename r).qualified second = call.qualified first :=
    Member.qualified_rename place
  have types : Signature.typeListText second (call.rename r).args =
      Signature.typeListText first call.args := Signature.typeListText_rename args
  have package : second (call.rename r).package = first call.package :=
    place call.package List.mem_cons_self
  cases error with
  | unknownPackage =>
      unfold rename diagnostic
      rw [package]
  | unknownMember =>
      unfold rename diagnostic
      rw [qualified]
  | argumentCount declaration =>
      have registered := Signature.text_rename (held declaration rfl)
      simp only [rename, diagnostic, registeredNote, Declaration.signature_rename, registered,
        qualified]
      simp [Declaration.params, Declaration.rename, Signature.rename, Call.rename]
  | argumentTypes declaration =>
      have registered := Signature.text_rename (held declaration rfl)
      simp only [rename, diagnostic, registeredNote, Declaration.signature_rename, registered,
        qualified, types]

end CallError

namespace Catalog

/-- Resolves a call or says in a diagnostic why it does not resolve. -/
def checkCall (catalog : Catalog) (spell : Spelling) (span : Span) (call : Call) :
    Except Diagnostic Symbol :=
  (catalog.resolveCall call).mapError (CallError.diagnostic spell span call)

section

variable {first second : Catalog}

theorem callee_rename (renamed : Renamed r first second) (call : Call) :
    second.callee? (r call.package) (call.member.rename r) (call.args.map (ValueType.rename r)) =
      (first.callee? call.package call.member call.args).map (Symbol.rename r) := by
  have asFunction := renamed.symbol ⟨.function, call.package, call.member, call.args⟩
  have asAction := renamed.symbol ⟨.action, call.package, call.member, call.args⟩
  unfold Signature.rename at asFunction asAction
  unfold callee?
  rw [asFunction, asAction]
  cases first.symbol? ⟨.function, call.package, call.member, call.args⟩ <;> rfl

theorem find?_of_present {catalog : Catalog} {name : Name} {package : Package}
    (present : catalog.package? name = some package) (kind : CallableKind) (member : Member) :
    package.find? kind member = catalog.find? kind name member := by
  unfold find?
  rw [present]
  rfl

theorem held_rename (renamed : Renamed r first second) {name : Name}
    {package renamedPackage : Package} (present : first.package? name = some package)
    (presentToo : second.package? (r name) = some renamedPackage) (member : Member) :
    renamedPackage.held? (member.rename r) =
      (package.held? member).map (Declaration.rename r) := by
  unfold Package.held?
  rw [find?_of_present present, find?_of_present present, find?_of_present presentToo,
    find?_of_present presentToo, renamed.entry, renamed.entry]
  cases first.find? .function name member <;> rfl

theorem resolve_rename (renamed : Renamed r first second) (call : Call) :
    second.resolveCall (call.rename r) =
      ((first.resolveCall call).map (Symbol.rename r)).mapError (CallError.rename r) := by
  have callee := callee_rename renamed call
  have present := renamed.present call.package
  unfold resolveCall Call.rename
  dsimp only
  rw [callee]
  cases first.callee? call.package call.member call.args with
  | some symbol => rfl
  | none =>
      dsimp only [Option.map_none]
      cases here : first.package? call.package with
      | none =>
          rw [here] at present
          have absent : second.package? (r call.package) = none := by
            rw [← Option.not_isSome_iff_eq_none, present]
            simp
          rw [absent]
          rfl
      | some package =>
          rw [here] at present
          obtain ⟨renamedPackage, presentToo⟩ := Option.isSome_iff_exists.1 (present.2 rfl)
          rw [presentToo]
          dsimp only
          rw [held_rename renamed here presentToo]
          cases package.held? call.member with
          | none => rfl
          | some held =>
              simp only [Option.map_some, List.length_map, Declaration.params,
                Declaration.signature_rename, Signature.rename]
              by_cases counted : held.signature.params.length = call.args.length
              · simp only [counted, if_true]
                rfl
              · simp only [counted, if_false]
                rfl

theorem holds_of_refused {call : Call} {error : CallError}
    (refused : first.resolveCall call = .error error) :
    ∀ held ∈ error.held?, first.Holds held := by
  intro held named
  unfold resolveCall at refused
  split at refused
  · cases refused
  · split at refused
    · cases refused
      cases named
    · next package present =>
        split at refused
        · cases refused
          cases named
        · next entry found =>
            have here : entry = held := by
              split at refused <;> cases refused <;> exact Option.some.inj named
            subst here
            refine ⟨call.package, package, present, ?_⟩
            rw [Package.mem_declarations_iff]
            unfold Package.held? at found
            split at found
            · next function asFunction =>
                cases found
                exact ⟨_, _, asFunction⟩
            · exact ⟨_, _, found⟩

theorem check_rename (renamed : Renamed r first second) {spell respell : Spelling} (span : Span)
    {call : Call} (called : Respells r spell respell call.names)
    (held : ∀ declaration, first.Holds declaration →
      Respells r spell respell declaration.signature.names) :
    second.checkCall respell span (call.rename r) =
      (first.checkCall spell span call).map (Symbol.rename r) := by
  unfold checkCall
  rw [resolve_rename renamed]
  cases resolved : first.resolveCall call with
  | ok symbol => rfl
  | error error =>
      apply congrArg Except.error
      apply CallError.diagnostic_rename span called
      intro declaration named
      exact held declaration (holds_of_refused resolved declaration named)

end

end Catalog

end NativeBinding
