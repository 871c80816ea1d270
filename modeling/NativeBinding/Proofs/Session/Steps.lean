import NativeBinding.Proofs.Catalog.Coherence
import NativeBinding.Proofs.Host.Dispatch
import NativeBinding.Proofs.LastWrite
import NativeBinding.Session

/-!
# Runs of a session

A session is driven step by step, and what starts a session with its builtins is such a run too. A
run of the session is at the same time a run of its catalog, and under each signature the natives
remember the last step that bound or unbound it. The world belongs to no session, so every step
that looks at it brings its own.
-/

set_option autoImplicit false

namespace NativeBinding.Session

inductive Step where
  | registerNative (binding : Binding Context)
  | unregisterNative (declaration : Declaration)
  | registerPackage (draft : Package.Draft)
  | rebuildScope
  | registerConversion (conversion : Conversion) (routine : Routine)
  | unregisterConversion (conversion : Conversion)
  | intern (text : String)
  | resolveCall (call : Call)
  | checkConversions (units : List (List Site))
  | convert (world : World) (cast : Cast) (operand : Value)
  | invoke (world : World) (signature : Signature) (args : List Value)

/-- Resolving, checking and converting read the session and leave it as it is. -/
def after (session : Session) : Step → Session
  | .registerNative binding => session.registerNative binding
  | .unregisterNative declaration => session.unregisterNative declaration
  | .registerPackage draft => session.registerPackage draft.package
  | .rebuildScope => session.rebuildScope
  | .registerConversion conversion routine => (session.registerConversion conversion routine).1
  | .unregisterConversion conversion =>
      { session with conversions := (session.conversions.unregister conversion).1 }
  | .intern text => (session.intern text).1
  | .resolveCall _ | .checkConversions _ | .convert _ _ _ => session
  | .invoke world signature args => (session.invoke world signature args).1

def run (session : Session) (steps : List Step) : Session := steps.foldl after session

theorem run_cons (session : Session) (step : Step) (rest : List Step) :
    session.run (step :: rest) = (session.after step).run rest := rfl

theorem run_append (session : Session) (first second : List Step) :
    session.run (first ++ second) = (session.run first).run second :=
  List.foldl_append

namespace Step

def isPackage : Step → Bool
  | registerPackage _ => true
  | _ => false

def onCatalog? : Step → Option Catalog.Step
  | registerNative binding => some (.register binding.declaration)
  | unregisterNative declaration => some (.unregister declaration.kind declaration)
  | registerPackage draft => some (.registerPackage draft)
  | rebuildScope => some .rebuildScope
  | _ => none

/-- What the step leaves bound under a signature, if it binds or unbinds it at all. -/
def binds? (signature : Signature) : Step → Option (Option Declaration)
  | registerNative binding =>
      if signature = binding.declaration.signature then some (some binding.declaration) else none
  | unregisterNative declaration =>
      if signature = declaration.signature then some none else none
  | _ => none

def builtins (names : NameTable) : List Step :=
  let texts := Builtin.nativeNames ++ Builtin.conversionNames
  let name (text : String) : Name := ((names.internAll texts).name? text).getD .empty
  texts.map intern ++ (Builtin.natives name).map registerNative ++
    Builtin.conversions.map fun entry =>
      registerConversion ⟨entry.source, entry.target, entry.safe, name entry.text⟩ entry.routine

theorem builtins_only_add (names : NameTable) {step : Step} (builtin : step ∈ builtins names) :
    step.isPackage = false ∧ ∀ signature, step.binds? signature ≠ some none := by
  unfold builtins at builtin
  rcases List.mem_append.1 builtin with earlier | conversion
  · rcases List.mem_append.1 earlier with interned | native
    · obtain ⟨text, -, rfl⟩ := List.mem_map.1 interned
      exact ⟨rfl, by simp [binds?]⟩
    · obtain ⟨binding, -, rfl⟩ := List.mem_map.1 native
      refine ⟨rfl, ?_⟩
      intro signature
      rw [binds?]
      split <;> simp
  · obtain ⟨entry, -, rfl⟩ := List.mem_map.1 conversion
    exact ⟨rfl, by simp [binds?]⟩

end Step

theorem run_interns (session : Session) (texts : List String) :
    session.run (texts.map Step.intern) =
      { session with names := session.names.internAll texts } := by
  induction texts generalizing session with
  | nil => rfl
  | cons text rest ih => exact ih (session.intern text).1

theorem load_builtins_run (session : Session) :
    session.loadBuiltins = session.run (Step.builtins session.names) := by
  unfold Step.builtins
  rw [run_append, run_append, run_interns]
  unfold run
  rw [List.foldl_map, List.foldl_map]
  rfl

/-- A started session has come from a bare one, and nothing was taken out on the way. -/
theorem start_run (settings : Settings) (sink : Sink) :
    ∃ steps, start settings sink = (bare settings sink).run steps ∧
      ∀ step ∈ steps, step.isPackage = false ∧
        ∀ signature, step.binds? signature ≠ some none := by
  unfold start
  split
  · refine ⟨Step.builtins (bare settings sink).names, load_builtins_run _, ?_⟩
    intro step builtin
    exact Step.builtins_only_add _ builtin
  · exact ⟨[], rfl, by simp⟩

theorem catalog_after (session : Session) (step : Step) :
    (session.after step).catalog =
      (step.onCatalog?.map session.catalog.after).getD session.catalog := by
  cases step <;> rfl

theorem catalog_run (session : Session) (steps : List Step) :
    (session.run steps).catalog = session.catalog.run (steps.filterMap Step.onCatalog?) := by
  unfold run
  induction steps generalizing session with
  | nil => rfl
  | cons step rest ih =>
      rw [List.foldl_cons, ih, catalog_after]
      cases effect : step.onCatalog? with
      | none =>
          rw [List.filterMap_cons_none effect]
          rfl
      | some operation =>
          rw [List.filterMap_cons_some effect]
          rfl

theorem declaration_after (signature : Signature) (session : Session) (step : Step) :
    (session.after step).natives.declaration? signature =
      (step.binds? signature).getD (session.natives.declaration? signature) := by
  cases step with
  | registerNative binding =>
      refine (NativeTable.declaration?_register ..).trans ?_
      rw [Step.binds?]
      split <;> rfl
  | unregisterNative declaration =>
      refine (NativeTable.declaration?_unregister ..).trans ?_
      rw [Step.binds?]
      split <;> rfl
  | _ => rfl

theorem declaration_run (signature : Signature) (session : Session) (steps : List Step) :
    (session.run steps).natives.declaration? signature =
      ((steps.filterMap (Step.binds? signature)).getLast?).getD
        (session.natives.declaration? signature) :=
  last_write_of_run (fun session => session.natives.declaration? signature)
    (declaration_after signature) steps session

theorem outcome_invoke (session : Session) (world : World) (signature : Signature)
    (args : List Value) :
    (session.invoke world signature args).2.2 =
      (session.natives.invoke ⟨session.settings.properties, session.sink, world⟩ signature
        args).2 := rfl

end NativeBinding.Session
