import Mathlib.Data.List.DropRight
import NativeBinding.Proofs.Catalog.Coherence
import NativeBinding.Proofs.LastWrite

/-!
# The state after a run, told by the run

An entry of a package is what the last step that touched it left. A symbol is that of the last
declaration since the scope was rebuilt; a signature without one is answered by what the packages
held at the rebuild. An unregistration takes out what stands under its kind and member, so nothing
is asked of the declaration that it is given.
-/

set_option autoImplicit false

namespace NativeBinding.Catalog

/-- What a step leaves at an entry, if it touches the entry at all. -/
def Step.leaves? (kind : CallableKind) (package : Name) (member : Member) :
    Step → Option (Option Declaration)
  | .register declaration =>
      if kind = declaration.kind ∧ package = declaration.package ∧ member = declaration.member
      then some (some declaration)
      else none
  | .registerPackage draft =>
      if package = draft.name then some (draft.package.find? kind member) else none
  | .unregister gone declaration =>
      if kind = gone ∧ package = declaration.package ∧ member = declaration.member
      then some none
      else none
  | .rebuildScope => none

def Step.names? : Step → Option Name
  | .register declaration => some declaration.package
  | .registerPackage draft => some draft.name
  | .unregister _ _ => none
  | .rebuildScope => none

theorem find_after (kind : CallableKind) (package : Name) (member : Member) (catalog : Catalog)
    (step : Step) :
    (catalog.after step).find? kind package member =
      (step.leaves? kind package member).getD (catalog.find? kind package member) := by
  cases step with
  | register declaration =>
      simp only [after, Step.leaves?, find?_register]
      split_ifs <;> rfl
  | registerPackage draft =>
      simp only [after, Step.leaves?, find?_registerPackage, Package.Draft.name_package]
      split_ifs <;> rfl
  | unregister gone declaration =>
      simp only [after, Step.leaves?, find?_unregister]
      split_ifs <;> rfl
  | rebuildScope => rfl

theorem find_run (kind : CallableKind) (package : Name) (member : Member) (catalog : Catalog)
    (steps : List Step) :
    (catalog.run steps).find? kind package member =
      ((steps.filterMap (Step.leaves? kind package member)).getLast?).getD
        (catalog.find? kind package member) :=
  last_write_of_run (fun catalog => catalog.find? kind package member)
    (find_after kind package member) steps catalog

theorem present_after (name : Name) (catalog : Catalog) (step : Step) :
    ((catalog.after step).package? name).isSome ↔
      step.names? = some name ∨ (catalog.package? name).isSome := by
  cases step with
  | register declaration =>
      rw [after, package?_register, Step.names?, Option.some.injEq]
      split
      · next same => simp [same]
      · next different => simp [Ne.symm different]
  | registerPackage draft =>
      rw [after, package?_registerPackage, Package.Draft.name_package, Step.names?,
        Option.some.injEq]
      split
      · next same => simp [same]
      · next different => simp [Ne.symm different]
  | unregister gone declaration =>
      rw [after, package?_unregister]
      split
      · next same => simp [same, Step.names?]
      · simp [Step.names?]
  | rebuildScope => simp [after, Step.names?]

theorem present_run (name : Name) (catalog : Catalog) (steps : List Step) :
    ((catalog.run steps).package? name).isSome ↔
      (∃ step ∈ steps, step.names? = some name) ∨ (catalog.package? name).isSome := by
  unfold run
  induction steps generalizing catalog with
  | nil => simp
  | cons step rest ih =>
      rw [List.foldl_cons, ih, present_after]
      simp only [List.mem_cons, exists_eq_or_imp]
      exact or_left_comm.trans or_assoc.symm

/-- The steps after the last rebuild, all of them if there is none. -/
def sinceRebuild (steps : List Step) : List Step := steps.rtakeWhile fun step => !step.isRebuild

def untilRebuild (steps : List Step) : List Step := steps.rdropWhile fun step => !step.isRebuild

theorem since_rebuild_snoc (steps : List Step) (step : Step) :
    sinceRebuild (steps ++ [step]) =
      if step.isRebuild then [] else sinceRebuild steps ++ [step] := by
  unfold sinceRebuild
  rw [List.rtakeWhile_concat]
  cases step.isRebuild <;> rfl

theorem until_rebuild_snoc (steps : List Step) (step : Step) :
    untilRebuild (steps ++ [step]) =
      if step.isRebuild then steps ++ [step] else untilRebuild steps := by
  unfold untilRebuild
  rw [List.rdropWhile_concat]
  cases step.isRebuild <;> rfl

/-- What decides the answer for a signature: its last declaration since the rebuild, or else what
the packages held under it when the scope was rebuilt. -/
def deciding? (signature : Signature) (steps : List Step) : Option Declaration :=
  (Scope.lastDeclared? signature ((sinceRebuild steps).flatMap Step.declared)).or
    ((empty.run (untilRebuild steps)).holding? signature)

theorem symbol_run (signature : Signature) (steps : List Step) :
    (empty.run steps).symbol? signature =
      (deciding? signature steps).map Declaration.symbol := by
  unfold deciding?
  induction steps using List.reverseRecOn with
  | nil => rfl
  | append_singleton steps step ih =>
      rw [since_rebuild_snoc, until_rebuild_snoc, run_snoc]
      cases kind : step.isRebuild with
      | true =>
          cases step with
          | rebuildScope =>
              have filed := (coherent_run coherent_empty steps).filed
              simp only [if_true, List.flatMap_nil]
              rw [run_snoc]
              exact symbol_rebuildScope filed signature
          | _ => cases kind
      | false =>
          simp only [Bool.false_eq_true, if_false]
          rw [symbol_after _ kind, ih, List.flatMap_append, Scope.last_declared_append]
          rw [List.flatMap_singleton, Option.or_assoc]
          simp only [Option.map_or]

/-- The last write wins, in each of the three views. Entries follow every step at once, packages are
never taken away, and the scope forgets only when it is rebuilt. -/
theorem last_write_wins (steps : List Step) :
    (∀ kind package member,
      (empty.run steps).find? kind package member =
        ((steps.filterMap (Step.leaves? kind package member)).getLast?).getD none) ∧
      (∀ name, ((empty.run steps).package? name).isSome ↔
        ∃ step ∈ steps, step.names? = some name) ∧
      ∀ signature, (empty.run steps).symbol? signature =
        (deciding? signature steps).map Declaration.symbol := by
  refine ⟨?_, ?_, fun signature => symbol_run signature steps⟩
  · intro kind package member
    exact find_run kind package member empty steps
  · intro name
    rw [present_run]
    have absent : (empty.package? name).isSome = false := rfl
    simp [absent]

end NativeBinding.Catalog
