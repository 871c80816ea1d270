import Mathlib.Data.List.Forall2
import NativeBinding.Host.Native

/-!
# What a call of a host implementation can come to

A list of values is checked place by place, and the first value out of place decides. A call is
unbound, refused before its implementation runs, rejected after it has run, or answered; each of
these outcomes says what was bound and how far the lists conformed.
-/

set_option autoImplicit false

namespace NativeBinding

theorem Value.conforms_to_own_type (value : Value) : value.conformsTo value.type := by
  cases value <;> simp [Value.conformsTo, Value.type]

/-- Every value stands under a type that takes it, and none is left over. -/
def Conform (types : List ValueType) (values : List Value) : Prop :=
  List.Forall₂ (fun type value => value.conformsTo type) types values

/-- The misfit is at a place of the two lists, and all places before it are in order. -/
structure Misfit.Located (misfit : Misfit) (start : Nat) (types : List ValueType)
    (values : List Value) (place : Nat) (value : Value) : Prop where
  index : misfit.index = start + place
  declared : types[place]? = some misfit.expected
  passed : values[place]? = some value
  found : misfit.found = value.type
  refused : value.conformsTo misfit.expected = false
  first : Conform (types.take place) (values.take place)

theorem first_misfit_none {types : List ValueType} {values : List Value}
    (sameLength : values.length = types.length) (start : Nat) :
    firstMisfit? start types values = none ↔ Conform types values := by
  unfold Conform
  induction types generalizing start values with
  | nil =>
      have nothing : values = [] := List.length_eq_zero_iff.1 sameLength
      simp [nothing, firstMisfit?]
  | cons declared types ih =>
      cases values with
      | nil => cases sameLength
      | cons value values =>
          have sameRest : values.length = types.length := Nat.succ.inj sameLength
          rw [List.forall₂_cons, firstMisfit?]
          by_cases conforms : value.conformsTo declared = true
          · rw [if_pos conforms, ih sameRest (start + 1)]
            simp [conforms]
          · simp [conforms]

theorem conform_iff (types : List ValueType) (values : List Value) :
    Conform types values ↔
      values.length = types.length ∧ firstMisfit? 0 types values = none := by
  constructor
  · intro conform
    have sameLength : values.length = types.length := (List.Forall₂.length_eq conform).symm
    exact ⟨sameLength, (first_misfit_none sameLength 0).2 conform⟩
  · rintro ⟨sameLength, noMisfit⟩
    exact (first_misfit_none sameLength 0).1 noMisfit

theorem conform_at {types : List ValueType} {values : List Value} (conform : Conform types values)
    {place : Nat} {type : ValueType} (declared : types[place]? = some type) :
    ∃ value, values[place]? = some value ∧ value.conformsTo type = true := by
  unfold Conform at conform
  induction conform generalizing place with
  | nil => cases declared
  | cons conforms rest ih =>
      cases place with
      | zero =>
          cases declared
          exact ⟨_, rfl, conforms⟩
      | succ place => exact ih declared

theorem first_misfit_located {types : List ValueType} {values : List Value} {start : Nat}
    {misfit : Misfit} (out : firstMisfit? start types values = some misfit) :
    ∃ place value, misfit.Located start types values place value := by
  induction types generalizing start values with
  | nil => cases out
  | cons declared types ih =>
      cases values with
      | nil => cases out
      | cons value values =>
          rw [firstMisfit?] at out
          by_cases conforms : value.conformsTo declared = true
          · rw [if_pos conforms] at out
            obtain ⟨place, later, located⟩ := ih out
            refine ⟨place + 1, later, ?_, located.declared, located.passed, located.found,
              located.refused, ?_⟩
            · have index := located.index
              omega
            · exact List.Forall₂.cons conforms located.first
          · rw [if_neg conforms] at out
            cases out
            exact ⟨0, value, rfl, rfl, rfl, rfl, by simpa using conforms, List.Forall₂.nil⟩

/-- Arguments and results are checked alike: their number first, then each in its place. -/
theorem check_passes {ε : Type} (types : List ValueType) (values : List Value) (count : ε)
    (mistype : Misfit → ε) :
    (if values.length ≠ types.length then some count
      else (firstMisfit? 0 types values).map mistype) = none ↔ Conform types values := by
  rw [conform_iff]
  by_cases counted : values.length = types.length
  · rw [if_neg (not_not.2 counted), Option.map_eq_none_iff]
    exact (and_iff_right counted).symm
  · rw [if_pos counted]
    simp [counted]

theorem check_fails {ε : Type} {types : List ValueType} {values : List Value} {count error : ε}
    {mistype : Misfit → ε}
    (failed : (if values.length ≠ types.length then some count
      else (firstMisfit? 0 types values).map mistype) = some error) :
    (values.length ≠ types.length ∧ error = count) ∨
      (values.length = types.length ∧
        ∃ misfit value, Misfit.Located misfit 0 types values misfit.index value ∧
          error = mistype misfit) := by
  by_cases counted : values.length = types.length
  · rw [if_neg (not_not.2 counted)] at failed
    obtain ⟨misfit, out, same⟩ := Option.map_eq_some_iff.1 failed
    obtain ⟨place, value, located⟩ := first_misfit_located out
    have here : place = misfit.index := by
      have index := located.index
      omega
    rw [here] at located
    exact .inr ⟨counted, misfit, value, located, same.symm⟩
  · rw [if_pos counted] at failed
    exact .inl ⟨counted, (Option.some.inj failed).symm⟩

namespace NativeTable

variable {σ : Type}

theorem declaration?_register (table : NativeTable σ) (declaration : Declaration)
    (native : Native σ) (signature : Signature) :
    (table.register declaration native).1.declaration? signature =
      if signature = declaration.signature then some declaration
      else table.declaration? signature := by
  unfold declaration? register
  rw [OrderedMap.find?_insert]
  by_cases same : signature = declaration.signature <;> simp [same]

theorem declaration?_unregister (table : NativeTable σ) (gone signature : Signature) :
    (table.unregister gone).1.declaration? signature =
      if signature = gone then none else table.declaration? signature := by
  unfold declaration? unregister
  rw [OrderedMap.find?_erase]
  by_cases same : signature = gone <;> simp [same]

theorem declaration_of_bound {table : NativeTable σ} {signature : Signature}
    {binding : Binding σ} (bound : table.bindings.find? signature = some binding) :
    table.declaration? signature = some binding.declaration := by
  unfold declaration?
  rw [bound]
  rfl

theorem refuse_none {declaration : Declaration} {args : List Value} :
    refuse? declaration args = none ↔ Conform declaration.argTypes args :=
  check_passes declaration.argTypes args _ _

theorem reject_none {declaration : Declaration} {results : List Value} :
    reject? declaration results = none ↔ Conform declaration.returns results :=
  check_passes declaration.returns results _ _

theorem refused_because {declaration : Declaration} {args : List Value} {error : DispatchError}
    (refused : refuse? declaration args = some error) :
    (args.length ≠ declaration.argCount ∧
      error = .argumentCount declaration.argCount args.length) ∨
      (args.length = declaration.argCount ∧
        ∃ misfit value, Misfit.Located misfit 0 declaration.argTypes args misfit.index value ∧
          error = .argumentType misfit.index misfit.expected misfit.found) :=
  check_fails refused

theorem rejected_because {declaration : Declaration} {results : List Value}
    {error : DispatchError} (rejected : reject? declaration results = some error) :
    (results.length ≠ declaration.returns.length ∧
      error = .resultCount declaration.returns.length results.length) ∨
      (results.length = declaration.returns.length ∧
        ∃ misfit value, Misfit.Located misfit 0 declaration.returns results misfit.index value ∧
          error = .resultType misfit.index misfit.expected misfit.found) :=
  check_fails rejected

/-- The four ways a call can end. An implementation runs in the last two only, and then on exactly
the arguments of the call. -/
inductive Called (table : NativeTable σ) (state : σ) (signature : Signature)
    (args : List Value) : σ × Except DispatchError (List Value) → Prop where
  | unbound (absent : table.bindings.find? signature = none) :
      Called table state signature args (state, .error .unknownNative)
  | refused (binding : Binding σ) (error : DispatchError)
      (bound : table.bindings.find? signature = some binding)
      (because : refuse? binding.declaration args = some error) :
      Called table state signature args (state, .error error)
  | rejected (binding : Binding σ) (error : DispatchError)
      (bound : table.bindings.find? signature = some binding)
      (conform : Conform binding.declaration.argTypes args)
      (because : reject? binding.declaration (binding.native state args).2 = some error) :
      Called table state signature args ((binding.native state args).1, .error error)
  | answered (binding : Binding σ)
      (bound : table.bindings.find? signature = some binding)
      (conform : Conform binding.declaration.argTypes args)
      (answer : Conform binding.declaration.returns (binding.native state args).2) :
      Called table state signature args
        ((binding.native state args).1, .ok (binding.native state args).2)

theorem invoke_called (table : NativeTable σ) (state : σ) (signature : Signature)
    (args : List Value) :
    Called table state signature args (table.invoke state signature args) := by
  unfold invoke
  cases bound : table.bindings.find? signature with
  | none => exact .unbound bound
  | some binding =>
      cases refusal : refuse? binding.declaration args with
      | some error =>
          simp only [refusal]
          exact .refused binding error bound refusal
      | none =>
          have conform := refuse_none.1 refusal
          simp only [refusal]
          cases rejection : reject? binding.declaration (binding.native state args).2 with
          | some error =>
              exact .rejected binding error bound conform rejection
          | none => exact .answered binding bound conform (reject_none.1 rejection)

theorem unbound_of_unknown {table : NativeTable σ} {state : σ} {signature : Signature}
    {args : List Value}
    (unknown : (table.invoke state signature args).2 = .error .unknownNative) :
    table.declaration? signature = none := by
  have called := table.invoke_called state signature args
  generalize table.invoke state signature args = result at called unknown
  cases called with
  | unbound absent =>
      unfold declaration?
      rw [absent]
      rfl
  | refused binding error bound because =>
      cases unknown
      rcases refused_because because with ⟨-, same⟩ | ⟨-, _, _, -, same⟩ <;> cases same
  | rejected binding error bound conform because =>
      cases unknown
      rcases rejected_because because with ⟨-, same⟩ | ⟨-, _, _, -, same⟩ <;> cases same
  | answered binding bound conform answer => cases unknown

theorem mistyped_argument {table : NativeTable σ} {state : σ} {signature : Signature}
    {args : List Value} {index : Nat} {expected found : ValueType}
    (mistyped : (table.invoke state signature args).2 =
      .error (.argumentType index expected found)) :
    ∃ declaration, table.declaration? signature = some declaration ∧
      ∃ value, Misfit.Located ⟨index, expected, found⟩ 0 declaration.argTypes args index value := by
  have called := table.invoke_called state signature args
  generalize table.invoke state signature args = result at called mistyped
  cases called with
  | unbound absent => cases mistyped
  | refused binding error bound because =>
      cases mistyped
      rcases refused_because because with ⟨-, same⟩ | ⟨-, misfit, value, located, same⟩
      · cases same
      · cases same
        exact ⟨binding.declaration, declaration_of_bound bound, value, located⟩
  | rejected binding error bound conform because =>
      cases mistyped
      rcases rejected_because because with ⟨-, same⟩ | ⟨-, _, _, -, same⟩ <;> cases same
  | answered binding bound conform answer => cases mistyped

theorem conform_of_answered {table : NativeTable σ} {state : σ} {signature : Signature}
    {args results : List Value} (answered : (table.invoke state signature args).2 = .ok results) :
    ∃ binding, table.bindings.find? signature = some binding ∧
      results = (binding.native state args).2 ∧ Conform binding.declaration.returns results := by
  have called := table.invoke_called state signature args
  generalize table.invoke state signature args = ended at called answered
  cases called with
  | answered binding bound conform answer =>
      cases answered
      exact ⟨binding, bound, rfl, answer⟩
  | _ => cases answered

theorem declared_results {table : NativeTable σ} {state : σ} {signature : Signature}
    {args results : List Value} (answered : (table.invoke state signature args).2 = .ok results) :
    ∃ declaration, table.declaration? signature = some declaration ∧
      Conform declaration.returns results := by
  obtain ⟨binding, bound, -, conform⟩ := conform_of_answered answered
  exact ⟨binding.declaration, declaration_of_bound bound, conform⟩

end NativeTable

end NativeBinding
