import NativeBinding.Conversion.Check

/-!
# Runs of a conversion table

A table changes by registering and unregistering conversions. Whatever its history, a conversion
that it holds for a pair of types is a conversion between these types.
-/

set_option autoImplicit false

namespace NativeBinding.ConversionTable

inductive Step where
  | register (conversion : Conversion)
  | unregister (conversion : Conversion)
  deriving DecidableEq, Repr

def after (table : ConversionTable) : Step → ConversionTable
  | .register conversion => (table.register conversion).1
  | .unregister conversion => (table.unregister conversion).1

def run (table : ConversionTable) (steps : List Step) : ConversionTable := steps.foldl after table

theorem run_snoc (table : ConversionTable) (steps : List Step) (step : Step) :
    table.run (steps ++ [step]) = (table.run steps).after step :=
  List.foldl_append

/-- Every conversion is held under its own pair. -/
def Keyed (table : ConversionTable) : Prop :=
  ∀ pair, ∀ conversion ∈ table.candidates pair, conversion.pair = pair

theorem keyed_empty : Keyed .empty := by
  intro pair conversion held
  cases held

theorem held_after {table : ConversionTable} {step : Step} {pair : TypePair}
    {conversion : Conversion} (held : conversion ∈ (table.after step).candidates pair) :
    conversion ∈ table.candidates pair ∨
      (step = .register conversion ∧ conversion.pair = pair) := by
  cases step with
  | register registered =>
      rw [after, candidates_register] at held
      split at held
      · next new =>
          rcases List.mem_append.1 held with earlier | last
          · exact .inl earlier
          · rw [List.mem_singleton.1 last]
            exact .inr ⟨rfl, new.1.symm⟩
      · exact .inl held
  | unregister gone =>
      rw [after, candidates_unregister] at held
      split at held
      · exact .inl (List.mem_filter.1 held).1
      · exact .inl held

theorem keyed_after {table : ConversionTable} (keyed : table.Keyed) (step : Step) :
    (table.after step).Keyed := by
  intro pair conversion held
  rcases held_after held with earlier | ⟨-, own⟩
  · exact keyed pair conversion earlier
  · exact own

theorem keyed_run {table : ConversionTable} (keyed : table.Keyed) (steps : List Step) :
    (table.run steps).Keyed := by
  unfold run
  induction steps generalizing table with
  | nil => exact keyed
  | cons step rest ih => exact ih (keyed_after keyed step)

theorem pair_of_resolved {table : ConversionTable} (keyed : table.Keyed) {pair : TypePair}
    {conversion : Conversion} (resolved : table.resolve pair = .ok conversion) :
    conversion.pair = pair := by
  have only := (resolve_eq_ok_iff table pair conversion).1 resolved
  apply keyed pair
  rw [only]
  exact List.mem_singleton_self conversion

end NativeBinding.ConversionTable
