import NativeBinding.Proofs.Session.Steps

/-!
# The checker and the dispatcher agree

A package finds a declaration by kind and member, scope and natives answer a full signature. As long
as every declaration comes with its implementation, what a package holds is what the natives hold,
and a symbol of the scope is that of the implementation bound under its signature, if there is
still one. So a call that was resolved and then run meets the types that it was checked against.
-/

set_option autoImplicit false

namespace NativeBinding

def Call.identity (call : Call) (symbol : Symbol) : Signature :=
  ⟨symbol.type.kind, call.package, call.member, call.args⟩

/-- How many values come before the arguments of a call. -/
def Symbol.receivers (symbol : Symbol) : Nat := symbol.flags.attached.toNat

namespace Declaration

theorem receivers_symbol (declaration : Declaration) :
    declaration.symbol.receivers = declaration.receiver.toList.length := by
  unfold Symbol.receivers symbol
  cases declaration.receiver <;> rfl

theorem arg_type_after_receiver (declaration : Declaration) (place : Nat) :
    declaration.argTypes[declaration.symbol.receivers + place]? = declaration.params[place]? := by
  unfold argTypes
  rw [receivers_symbol, List.getElem?_append_right (Nat.le_add_right _ _)]
  rw [Nat.add_sub_cancel_left]

end Declaration

namespace Catalog

theorem symbol_of_resolved {steps : List Step} {call : Call} {symbol : Symbol}
    (resolved : (empty.run steps).resolveCall call = .ok symbol) :
    (empty.run steps).symbol? (call.identity symbol) = some symbol := by
  have callee := (resolveCall_eq_ok_iff ..).1 resolved
  have sameKind : ∀ kind,
      (empty.run steps).symbol? ⟨kind, call.package, call.member, call.args⟩ = some symbol →
        (empty.run steps).symbol? (call.identity symbol) = some symbol := by
    intro kind present
    unfold Call.identity
    rw [(symbol_of_signature present).1]
    exact present
  rcases (callee?_eq_some_iff ..).1 callee with function | ⟨-, action⟩
  · exact sameKind .function function
  · exact sameKind .action action

end Catalog

namespace Session

/-- What a package holds is what the natives hold under the same signature, and where scope and
natives both answer a signature, they answer alike. -/
structure Agrees (session : Session) : Prop where
  coherent : session.catalog.Coherent
  held : ∀ declaration, session.catalog.Holds declaration →
    session.natives.declaration? declaration.signature = some declaration
  resolved : ∀ signature symbol declaration,
    session.catalog.symbol? signature = some symbol →
      session.natives.declaration? signature = some declaration → symbol = declaration.symbol

theorem agrees_bare (settings : Settings) (sink : Sink) : (bare settings sink).Agrees where
  coherent := Catalog.coherent_empty
  held := by
    rintro declaration ⟨name, package, present, -⟩
    cases present
  resolved := by
    intro signature symbol declaration present
    cases present

theorem agrees_registerNative {session : Session} (agrees : session.Agrees)
    (binding : Binding Context) : (session.registerNative binding).Agrees := by
  have bound := fun signature => declaration_after signature session (.registerNative binding)
  refine ⟨Catalog.coherent_after agrees.coherent (.register binding.declaration), ?_, ?_⟩
  · intro declaration holds
    have registered : (session.catalog.after (.register binding.declaration)).Holds
        declaration := holds
    obtain ⟨source, unique⟩ := Catalog.holds_after agrees.coherent.filed registered
    refine (bound declaration.signature).trans ?_
    rw [Step.binds?]
    split
    · next same =>
        rw [unique binding.declaration (List.mem_singleton_self _) same.symm]
        rfl
    · next different =>
        have earlier : declaration ∉ Catalog.Step.declared (.register binding.declaration) := by
          intro brought
          rw [List.mem_singleton.1 brought] at different
          exact different rfl
        exact agrees.held declaration (source.resolve_left earlier)
  · intro signature symbol declaration present declared
    have lookup := (Catalog.symbol?_register ..).symm.trans present
    have answer := (bound signature).symm.trans declared
    rw [Step.binds?] at answer
    split at lookup
    · next same =>
        rw [if_pos same] at answer
        cases lookup
        cases answer
        rfl
    · next different =>
        rw [if_neg different] at answer
        exact agrees.resolved signature symbol declaration lookup answer

theorem agrees_unregisterNative {session : Session} (agrees : session.Agrees)
    (gone : Declaration) : (session.unregisterNative gone).Agrees := by
  have bound := fun signature => declaration_after signature session (.unregisterNative gone)
  have coherent := Catalog.coherent_after agrees.coherent (.unregister gone.kind gone)
  refine ⟨coherent, ?_, ?_⟩
  · intro declaration holds
    have found := (Catalog.holds_iff_found coherent.filed declaration).1 holds
    have lookup := (Catalog.find?_unregister ..).symm.trans found
    split at lookup
    · cases lookup
    · next different =>
        have otherSignature : declaration.signature ≠ gone.signature := by
          intro same
          unfold Declaration.kind Declaration.package Declaration.member at different
          rw [same] at different
          exact different ⟨rfl, rfl, rfl⟩
        have holdsBefore := (Catalog.holds_iff_found agrees.coherent.filed declaration).2 lookup
        refine (bound declaration.signature).trans ?_
        rw [Step.binds?, if_neg otherSignature]
        exact agrees.held declaration holdsBefore
  · intro signature symbol declaration present declared
    have lookup := (Catalog.symbol?_unregister ..).symm.trans present
    have answer := (bound signature).symm.trans declared
    rw [Step.binds?] at answer
    split at answer
    · cases answer
    · exact agrees.resolved signature symbol declaration lookup answer

/-- A rebuilt scope takes its symbols from the packages, so they agree because those do. -/
theorem agrees_rebuildScope {session : Session} (agrees : session.Agrees) :
    session.rebuildScope.Agrees := by
  refine ⟨Catalog.coherent_after agrees.coherent .rebuildScope, agrees.held, ?_⟩
  intro signature symbol declaration present declared
  have filed := agrees.coherent.filed
  have lookup := (Catalog.symbol_rebuildScope filed signature).symm.trans present
  obtain ⟨heldOne, holding, rfl⟩ := Option.map_eq_some_iff.1 lookup
  obtain ⟨holds, rfl⟩ := (Catalog.holding_iff filed signature heldOne).1 holding
  have sameOne := (agrees.held heldOne holds).symm.trans declared
  rw [Option.some.inj sameOne]

theorem agrees_after {session : Session} (agrees : session.Agrees) {step : Step}
    (single : step.isPackage = false) : (session.after step).Agrees := by
  cases step with
  | registerNative binding => exact agrees_registerNative agrees binding
  | unregisterNative declaration => exact agrees_unregisterNative agrees declaration
  | registerPackage draft => cases single
  | rebuildScope => exact agrees_rebuildScope agrees
  | _ => exact ⟨agrees.coherent, agrees.held, agrees.resolved⟩

theorem agrees_run {session : Session} (agrees : session.Agrees) {steps : List Step}
    (single : ∀ step ∈ steps, step.isPackage = false) : (session.run steps).Agrees := by
  unfold run
  induction steps generalizing session with
  | nil => exact agrees
  | cons step rest ih =>
      have now := agrees_after agrees (single step List.mem_cons_self)
      exact ih now fun later listed => single later (List.mem_cons_of_mem _ listed)

/-- Outside of whole packages every declaration comes with its implementation. -/
theorem bound_of_declared {step : Step} (single : step.isPackage = false)
    {operation : Catalog.Step} (effect : step.onCatalog? = some operation)
    {declaration : Declaration} (declared : declaration ∈ operation.declared) :
    step.binds? declaration.signature = some (some declaration) := by
  cases step with
  | registerNative binding =>
      cases effect
      cases List.mem_singleton.1 declared
      rw [Step.binds?, if_pos rfl]
  | registerPackage draft => cases single
  | unregisterNative gone =>
      cases effect
      cases declared
  | rebuildScope =>
      cases effect
      cases declared
  | _ => cases effect

/-- Symbols come only from bindings, so one without a binding has had its binding taken out. -/
theorem unbound_by_unregistration {settings : Settings} {sink : Sink} {steps : List Step}
    (single : ∀ step ∈ steps, step.isPackage = false) {signature : Signature} {symbol : Symbol}
    (present : ((bare settings sink).run steps).catalog.symbol? signature = some symbol)
    (unbound : ((bare settings sink).run steps).natives.declaration? signature = none) :
    (steps.filterMap (Step.binds? signature)).getLast? = some none := by
  rw [declaration_run] at unbound
  cases last : (steps.filterMap (Step.binds? signature)).getLast? with
  | some left =>
      rw [last] at unbound
      rw [← unbound]
      rfl
  | none =>
      have untouched := List.getLast?_eq_none_iff.1 last
      rw [catalog_run] at present
      rcases Catalog.symbol_source_run Catalog.coherent_empty present with
        ⟨declaration, brought, rfl, -⟩ | nothing
      · obtain ⟨operation, listed, declared⟩ := List.mem_flatMap.1 brought
        obtain ⟨step, ran, effect⟩ := List.mem_filterMap.1 listed
        have binds := bound_of_declared (single step ran) effect declared
        have written := List.mem_filterMap.2 ⟨step, ran, binds⟩
        rw [untouched] at written
        cases written
      · cases nothing

section

variable {settings : Settings} {sink : Sink} {steps : List Step}

/-- A started session is one that has run already, and it has taken nothing out so far. -/
theorem started_run (single : ∀ step ∈ steps, step.isPackage = false) :
    ∃ all, (start settings sink).run steps = (bare settings sink).run all ∧
      (∀ step ∈ all, step.isPackage = false) ∧
      ∀ signature, (all.filterMap (Step.binds? signature)).getLast? = some none →
        (steps.filterMap (Step.binds? signature)).getLast? = some none := by
  obtain ⟨earlier, started, onlyAdded⟩ := start_run settings sink
  refine ⟨earlier ++ steps, ?_, ?_, ?_⟩
  · rw [started, run_append]
  · intro step listed
    rcases List.mem_append.1 listed with early | late
    · exact (onlyAdded step early).1
    · exact single step late
  · intro signature last
    rw [List.filterMap_append, List.getLast?_append] at last
    rcases Option.or_eq_some_iff.1 last with late | ⟨-, early⟩
    · exact late
    · obtain ⟨step, listed, takesOut⟩ := List.mem_filterMap.1 (List.mem_of_getLast? early)
      exact absurd takesOut ((onlyAdded step listed).2 signature)

theorem started_agrees (single : ∀ step ∈ steps, step.isPackage = false) :
    ((start settings sink).run steps).Agrees := by
  obtain ⟨all, whole, allSingle, -⟩ := started_run single
  rw [whole]
  exact agrees_run (agrees_bare settings sink) allSingle

theorem started_identity (single : ∀ step ∈ steps, step.isPackage = false) {call : Call}
    {symbol : Symbol}
    (resolved : ((start settings sink).run steps).resolveCall call = .ok symbol) :
    ((start settings sink).run steps).catalog.symbol? (call.identity symbol) = some symbol ∧
      symbol.type.params = call.args := by
  obtain ⟨all, whole, -, -⟩ := started_run single
  unfold resolveCall at resolved
  rw [whole, catalog_run] at resolved ⊢
  have present := Catalog.symbol_of_resolved resolved
  exact ⟨present, (Catalog.symbol_of_signature present).2⟩

theorem started_unbound (single : ∀ step ∈ steps, step.isPackage = false)
    {signature : Signature} {symbol : Symbol}
    (present : ((start settings sink).run steps).catalog.symbol? signature = some symbol)
    (unbound : ((start settings sink).run steps).natives.declaration? signature = none) :
    (steps.filterMap (Step.binds? signature)).getLast? = some none := by
  obtain ⟨all, whole, allSingle, lastOfSteps⟩ := started_run single
  rw [whole] at present unbound
  exact lastOfSteps signature (unbound_by_unregistration allSingle present unbound)

end

section

variable {session : Session} {signature : Signature} {symbol : Symbol}

theorem typed_argument_accepted (agrees : session.Agrees)
    (present : session.catalog.symbol? signature = some symbol)
    (sameParams : symbol.type.params = signature.params) {world : World} {values : List Value}
    {place : Nat} {type expected found : ValueType} {value : Value}
    (checked : signature.params[place]? = some type)
    (passed : values[symbol.receivers + place]? = some value) (typed : value.type = type) :
    (session.invoke world signature values).2.2 ≠
      .error (.argumentType (symbol.receivers + place) expected found) := by
  intro mistyped
  rw [outcome_invoke] at mistyped
  obtain ⟨declaration, declared, other, located⟩ := NativeTable.mistyped_argument mistyped
  have own := agrees.resolved signature symbol declaration present declared
  subst own
  have declaredHere := located.declared
  rw [Declaration.arg_type_after_receiver] at declaredHere
  have sameType : expected = type := by
    rw [← sameParams] at checked
    exact Option.some.inj (declaredHere.symm.trans checked)
  have sameValue : other = value := Option.some.inj (located.passed.symm.trans passed)
  have conforms := Value.conforms_to_own_type value
  have refused := located.refused
  rw [sameType, sameValue, ← typed, conforms] at refused
  cases refused

theorem results_as_resolved (agrees : session.Agrees)
    (present : session.catalog.symbol? signature = some symbol) {world : World}
    {values results : List Value}
    (answered : (session.invoke world signature values).2.2 = .ok results) :
    Conform symbol.type.returns results := by
  rw [outcome_invoke] at answered
  obtain ⟨declaration, declared, conform⟩ := NativeTable.declared_results answered
  have own := agrees.resolved signature symbol declaration present declared
  subst own
  exact conform

end

/-- What the checker promises is what the dispatcher enforces. In every session that binds an
implementation with every declaration, a resolved call that is run finds no binding only after an
unregistration, has no argument refused that has the type it was checked with, and answers with as
many results as its symbol declares, each of the declared type. -/
theorem checker_and_dispatcher_agree (settings : Settings) (sink : Sink) (steps : List Step)
    (single : ∀ step ∈ steps, step.isPackage = false) :
    let session := (start settings sink).run steps
    (∀ declaration, session.catalog.Holds declaration →
      session.natives.declaration? declaration.signature = some declaration) ∧
      (∀ signature symbol declaration, session.catalog.symbol? signature = some symbol →
        session.natives.declaration? signature = some declaration →
          symbol = declaration.symbol) ∧
      ∀ call symbol, session.resolveCall call = .ok symbol → ∀ world values,
        let signature := call.identity symbol
        let outcome := (session.invoke world signature values).2.2
        (outcome = .error .unknownNative →
          (steps.filterMap (Step.binds? signature)).getLast? = some none) ∧
          (∀ (place : Nat) type value, call.args[place]? = some type →
            values[symbol.receivers + place]? = some value → value.type = type →
              ∀ expected found,
                outcome ≠ .error (.argumentType (symbol.receivers + place) expected found)) ∧
          ∀ results, outcome = .ok results →
            results.length = symbol.type.resultArity ∧ Conform symbol.type.returns results := by
  intro session
  have agrees : session.Agrees := started_agrees single
  refine ⟨agrees.held, agrees.resolved, ?_⟩
  intro call symbol resolved world values signature outcome
  obtain ⟨present, sameParams⟩ := started_identity single resolved
  refine ⟨?_, ?_, ?_⟩
  · intro unknown
    have unbound := NativeTable.unbound_of_unknown
      ((outcome_invoke session world signature values).symm.trans unknown)
    exact started_unbound single present unbound
  · intro place type value checked passed typed expected found
    exact typed_argument_accepted agrees present sameParams checked passed typed
  · intro results answered
    have conform := results_as_resolved agrees present answered
    exact ⟨(List.Forall₂.length_eq conform).symm, conform⟩

def answerNil : Native Context := fun context _ => (context, [.nil])

/-- Binds `get` under two signatures and takes it out with the first one, which also empties the
package entry of the second. -/
def getUnbound : List Step :=
  [.registerNative ⟨Catalog.getWith .int, answerNil⟩,
    .registerNative ⟨Catalog.getWith .string, answerNil⟩,
    .unregisterNative (Catalog.getWith .int)]

def callGet (type : ValueType) : Call := ⟨⟨14⟩, ⟨none, ⟨15⟩⟩, [type]⟩

theorem stale_unregistration_agrees :
    let session := (start { loadBuiltins := false } .silent).run getUnbound
    let unbound := (callGet .int).identity (Catalog.getWith .int).symbol
    let bound := (callGet .string).identity (Catalog.getWith .string).symbol
    session.resolveCall (callGet .int) = .ok (Catalog.getWith .int).symbol ∧
      (session.invoke .initial unbound [.int 1]).2.2 = .error .unknownNative ∧
      (getUnbound.filterMap (Step.binds? unbound)).getLast? = some none ∧
      session.resolveCall (callGet .string) = .ok (Catalog.getWith .string).symbol ∧
      (∀ expected found, (session.invoke .initial bound [.string "key"]).2.2 ≠
        .error (.argumentType 0 expected found)) ∧
      (session.invoke .initial bound [.string "key"]).2.2 = .ok [.nil] ∧
      Conform (Catalog.getWith .string).symbol.type.returns [.nil] := by
  intro session unbound bound
  have single : ∀ step ∈ getUnbound, step.isPackage = false := by decide
  obtain ⟨-, -, calls⟩ :=
    checker_and_dispatcher_agree { loadBuiltins := false } .silent getUnbound single
  obtain ⟨missing, -, -⟩ := calls (callGet .int) _ rfl .initial [.int 1]
  obtain ⟨-, typed, answer⟩ := calls (callGet .string) _ rfl .initial [.string "key"]
  have accepted := typed 0 .string (.string "key") rfl rfl rfl
  exact ⟨rfl, rfl, missing rfl, rfl, accepted, rfl, (answer [.nil] rfl).2⟩

end Session

end NativeBinding
