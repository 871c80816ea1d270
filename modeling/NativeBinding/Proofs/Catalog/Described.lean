import NativeBinding.Proofs.Catalog.Coherence
import NativeBinding.Proofs.Declaration.Building

/-!
# Symbols describe the signatures they stand under

The key of a symbol is the signature of a declaration, and the symbol is put together from other
parts of the same declaration. For what build steps make the two tell the same: kind, parameters and
whether there is a receiver. So a call that resolves by its arguments gets a symbol for exactly
these, and gets an action only where no function would do.
-/

set_option autoImplicit false

namespace NativeBinding

/-- A symbol says of the callable what the signature says, and flags the error that its own results
end with. -/
structure Symbol.Describes (symbol : Symbol) (signature : Signature) : Prop where
  kind : symbol.type.kind = signature.kind
  params : symbol.type.params = signature.params
  native : symbol.flags.native = true
  action : symbol.flags.action = true ↔ signature.kind = .action
  attached : symbol.flags.attached = true ↔ signature.member.receiver.isSome
  attachedAction : signature.kind = .action → symbol.flags.attached = true
  fallible : symbol.flags.fallible = true ↔ symbol.type.returns.getLast? = some .error

theorem Declaration.symbol_describes {declaration : Declaration} (built : declaration.Built) :
    declaration.symbol.Describes declaration.signature where
  kind := rfl
  params := rfl
  native := rfl
  action := beq_iff_eq
  attached := receiver_iff_member built
  attachedAction := action_has_receiver built
  fallible := beq_iff_eq

namespace Catalog

theorem symbol_described {steps : List Step}
    (built : ∀ step ∈ steps, ∀ declaration ∈ step.declared, declaration.Built)
    {signature : Signature} {symbol : Symbol}
    (present : (empty.run steps).symbol? signature = some symbol) :
    symbol.Describes signature := by
  rcases symbol_source_run coherent_empty present with ⟨declaration, declared, rfl, rfl⟩ | nothing
  · obtain ⟨step, ran, brought⟩ := List.mem_flatMap.1 declared
    exact Declaration.symbol_describes (built step ran declaration brought)
  · cases nothing

/-- Whatever has been registered, replaced, taken out and rebuilt, as long as it was made by build
steps: every symbol of the scope describes its signature, and a call is resolved to a symbol for
exactly its argument types, which is an action only if the scope has no function for them. -/
theorem symbols_describe_signatures (steps : List Step)
    (built : ∀ step ∈ steps, ∀ declaration ∈ step.declared, declaration.Built) :
    let catalog := empty.run steps
    (∀ entry ∈ catalog.scope.entries, entry.2.Describes entry.1) ∧
      ∀ package member args symbol, catalog.callee? package member args = some symbol →
        symbol.type.params = args ∧
          (symbol.flags.action = true →
            catalog.symbol? ⟨.function, package, member, args⟩ = none) := by
  intro catalog
  constructor
  · rintro ⟨signature, symbol⟩ listed
    apply symbol_described built
    exact (OrderedMap.mem_entries_iff _).1 listed
  · intro package member args symbol found
    rcases (callee?_eq_some_iff ..).1 found with function | ⟨free, action⟩
    · have describes := symbol_described built function
      refine ⟨describes.params, ?_⟩
      intro flagged
      cases describes.action.1 flagged
    · exact ⟨(symbol_described built action).params, fun _ => free⟩

/-- Attached twice, to two types in turn. -/
def reattached : Declaration :=
  (Declaration.function ⟨14⟩ ⟨15⟩).buildAll
    [.attachedTo ⟨⟨14⟩, ⟨16⟩⟩, .param .int, .attachedTo ⟨⟨14⟩, ⟨17⟩⟩, .fallible]

/-- An action that was moved under the same struct type and goes on after its error. -/
def movedAction : Declaration :=
  (Declaration.action ⟨14⟩ ⟨⟨14⟩, ⟨16⟩⟩ ⟨15⟩).buildAll
    [.fallible, .attachedTo ⟨⟨14⟩, ⟨17⟩⟩, .params [.int], .returning .string]

/-- Function and action share all but their kind; the function goes with its package, and its symbol
with the rebuild. -/
def functionReplaced : List Step :=
  [.register reattached, .registerPackage ⟨⟨14⟩, [.insert movedAction], by decide⟩, .rebuildScope]

theorem built_reattached : reattached.Built :=
  Declaration.built_all (.function ⟨14⟩ ⟨15⟩) _

theorem built_movedAction : movedAction.Built :=
  Declaration.built_all (.action ⟨14⟩ ⟨⟨14⟩, ⟨16⟩⟩ ⟨15⟩) _

theorem moved_action_described :
    (∀ step ∈ functionReplaced, ∀ declaration ∈ step.declared, declaration.Built) ∧
      (empty.run (functionReplaced.take 2)).callee? ⟨14⟩ ⟨some ⟨⟨14⟩, ⟨17⟩⟩, ⟨15⟩⟩ [.int] =
        some reattached.symbol ∧
      (empty.run functionReplaced).callee? ⟨14⟩ ⟨some ⟨⟨14⟩, ⟨17⟩⟩, ⟨15⟩⟩ [.int] =
        some movedAction.symbol ∧
      movedAction.symbol.Describes ⟨.action, ⟨14⟩, ⟨some ⟨⟨14⟩, ⟨17⟩⟩, ⟨15⟩⟩, [.int]⟩ ∧
      movedAction.symbol.flags.fallible = false ∧
      (empty.run functionReplaced).symbol? reattached.signature = none := by
  have built : ∀ step ∈ functionReplaced, ∀ declaration ∈ step.declared, declaration.Built := by
    intro step listed
    rcases List.mem_cons.1 listed with rfl | listed
    · intro declaration declared
      rw [List.mem_singleton.1 declared]
      exact built_reattached
    rcases List.mem_cons.1 listed with rfl | listed
    · intro declaration declared
      have only : declaration ∈ [movedAction] := declared
      rw [List.mem_singleton.1 only]
      exact built_movedAction
    · cases List.mem_singleton.1 listed
      intro declaration declared
      cases declared
  obtain ⟨described, resolved⟩ := symbols_describe_signatures functionReplaced built
  have callee : (empty.run functionReplaced).callee? ⟨14⟩ ⟨some ⟨⟨14⟩, ⟨17⟩⟩, ⟨15⟩⟩ [.int] =
      some movedAction.symbol := by decide
  obtain ⟨-, noFunction⟩ := resolved _ _ _ _ callee
  refine ⟨built, by decide, callee, described ⟨_, movedAction.symbol⟩ (by decide), by decide, ?_⟩
  exact noFunction (by decide)

end Catalog

end NativeBinding
