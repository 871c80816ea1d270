import NativeBinding.Proofs.Host.Builtins
import NativeBinding.Proofs.Name.Interning
import NativeBinding.Proofs.Session.Steps

/-!
# Sessions that bind nothing but the builtins

Loading the builtins into a session without natives gives such a session, and it stays one as long
as no other native is bound. As its table is exact, the names of the builtins are as distinct as
their texts, and so are their signatures and the fields that they write.
-/

set_option autoImplicit false

namespace NativeBinding.Session

def nameOf (session : Session) (text : String) : Name :=
  (session.names.name? text).getD .empty

/-- The table names the texts of the builtins, and nothing else is bound. -/
structure OnlyBuiltins (session : Session) : Prop where
  exact : session.names.Exact
  named : ∀ text ∈ Builtin.nativeNames, (session.names.name? text).isSome
  bound : Builtin.Bound session.nameOf session.natives

/-- Natives are bound among the given ones only. -/
def Step.BindsAmong (builtins : List (Binding Context)) : Step → Prop
  | .registerNative binding => binding ∈ builtins
  | _ => True

theorem name?_after {session : Session} {text : String} {name : Name}
    (named : session.names.name? text = some name) (step : Step) :
    (session.after step).names.name? text = some name := by
  cases step with
  | intern new => exact NameTable.name?_intern_of_named named new
  | _ => exact named

theorem nameOf_after {session : Session} {text : String}
    (named : (session.names.name? text).isSome) (step : Step) :
    (session.after step).nameOf text = session.nameOf text := by
  obtain ⟨name, there⟩ := Option.isSome_iff_exists.1 named
  simp only [nameOf, there, name?_after there step]

theorem named_after {session : Session} {text : String}
    (named : (session.names.name? text).isSome) (step : Step) :
    ((session.after step).names.name? text).isSome := by
  obtain ⟨name, there⟩ := Option.isSome_iff_exists.1 named
  exact Option.isSome_iff_exists.2 ⟨name, name?_after there step⟩

section

variable {session : Session}

theorem natives_after (only : session.OnlyBuiltins) (step : Step) :
    Builtin.natives (session.after step).nameOf = Builtin.natives session.nameOf := by
  apply Builtin.natives_congr
  intro text there
  exact nameOf_after (only.named text there) step

theorem only_builtins_after (only : session.OnlyBuiltins) {step : Step}
    (among : step.BindsAmong (Builtin.natives session.nameOf)) :
    (session.after step).OnlyBuiltins where
  exact := by
    cases step with
    | intern text => exact NameTable.exact_intern only.exact text
    | _ => exact only.exact
  named := fun text there => named_after (only.named text there) step
  bound := by
    unfold Builtin.Bound
    rw [natives_after only step]
    cases step with
    | registerNative binding => exact Builtin.bound_register session.nameOf only.bound among
    | unregisterNative declaration =>
        exact Builtin.bound_unregister session.nameOf only.bound declaration.signature
    | _ => exact only.bound

theorem only_builtins_run (only : session.OnlyBuiltins) {steps : List Step}
    (among : ∀ step ∈ steps, step.BindsAmong (Builtin.natives session.nameOf)) :
    (session.run steps).OnlyBuiltins := by
  unfold run
  induction steps generalizing session with
  | nil => exact only
  | cons step rest ih =>
      apply ih (only_builtins_after only (among step List.mem_cons_self))
      rw [natives_after only step]
      intro next later
      exact among next (List.mem_cons_of_mem step later)

theorem nameOf_injective (only : session.OnlyBuiltins) {left right : String}
    (leftThere : left ∈ Builtin.nativeNames) (rightThere : right ∈ Builtin.nativeNames)
    (same : session.nameOf left = session.nameOf right) : left = right := by
  obtain ⟨first, leftNamed⟩ := Option.isSome_iff_exists.1 (only.named left leftThere)
  obtain ⟨second, rightNamed⟩ := Option.isSome_iff_exists.1 (only.named right rightThere)
  simp only [nameOf, leftNamed, rightNamed, Option.getD_some] at same
  rw [← NameTable.text_of_named only.exact leftNamed, same,
    NameTable.text_of_named only.exact rightNamed]

theorem print_not_store (session : Session) :
    Builtin.printSignature session.nameOf ≠
      Builtin.setBinaryPayloadSignature session.nameOf := by
  intro same
  cases congrArg Signature.params same

theorem getProperty_not_store (session : Session) :
    Builtin.getPropertySignature session.nameOf ≠
      Builtin.setBinaryPayloadSignature session.nameOf := by
  intro same
  cases congrArg Signature.params same

theorem getProperty_not_print (only : session.OnlyBuiltins) :
    Builtin.getPropertySignature session.nameOf ≠ Builtin.printSignature session.nameOf := by
  intro same
  have packages : session.nameOf "runtime" = session.nameOf "io" :=
    congrArg Signature.package same
  exact absurd (nameOf_injective only (by decide) (by decide) packages) (by decide)

theorem payload_not_contentType (only : session.OnlyBuiltins) :
    session.nameOf "payload" ≠ session.nameOf "contentType" := by
  intro same
  exact absurd (nameOf_injective only (by decide) (by decide) same) (by decide)

end

/-- What loading the builtins does once their names are there. -/
def Step.builtinBindings (session : Session) : List Step :=
  (Builtin.natives session.nameOf).map registerNative ++
    Builtin.conversions.map fun entry =>
      registerConversion ⟨entry.source, entry.target, entry.safe, session.nameOf entry.text⟩
        entry.routine

/-- With the names of the builtins a session is ready to bind them. -/
theorem load_builtins_named {session : Session} (exact : session.names.Exact)
    (unbound : session.natives = .empty) :
    ∃ names, ({ session with names } : Session).OnlyBuiltins ∧
      session.loadBuiltins =
        ({ session with names } : Session).run (Step.builtinBindings { session with names }) := by
  have tableExact := NameTable.exact_internAll exact
    (Builtin.nativeNames ++ Builtin.conversionNames)
  have named : ∀ text ∈ Builtin.nativeNames, ((session.names.internAll
      (Builtin.nativeNames ++ Builtin.conversionNames)).name? text).isSome := by
    intro text there
    exact NameTable.named_internAll _ (List.mem_append_left Builtin.conversionNames there)
  rw [load_builtins_run]
  unfold Step.builtins
  rw [List.append_assoc, run_append, run_interns]
  -- A variable for the table: what the two sides have in common is not to be computed.
  generalize session.names.internAll (Builtin.nativeNames ++ Builtin.conversionNames) = names
    at tableExact named
  have nothing : Builtin.Bound ({ session with names } : Session).nameOf session.natives := by
    rw [unbound]
    exact Builtin.bound_empty _
  exact ⟨names, ⟨tableExact, named, nothing⟩, rfl⟩

/-- Loading the builtins binds these and no other. -/
theorem only_builtins_loaded {session : Session} (exact : session.names.Exact)
    (unbound : session.natives = .empty) : session.loadBuiltins.OnlyBuiltins := by
  obtain ⟨names, only, loaded⟩ := load_builtins_named exact unbound
  rw [loaded]
  apply only_builtins_run only
  intro step builtin
  rcases List.mem_append.1 builtin with native | conversion
  · obtain ⟨binding, listed, rfl⟩ := List.mem_map.1 native
    exact listed
  · obtain ⟨entry, -, rfl⟩ := List.mem_map.1 conversion
    exact trivial

theorem only_builtins_start {settings : Settings} (loads : settings.loadBuiltins = true)
    (sink : Sink) : (start settings sink).OnlyBuiltins := by
  have started : start settings sink = (bare settings sink).loadBuiltins := if_pos loads
  rw [started]
  exact only_builtins_loaded NameTable.exact_fresh rfl

end NativeBinding.Session
