import Mathlib.Data.List.Nodup
import NativeBinding.Conversion.Check
import NativeBinding.Proofs.Conversion.Steps
import NativeBinding.Proofs.Conversion.Targets
import NativeBinding.Proofs.Renaming.Basic

/-!
# Conversions under a renaming

A table that has run the same steps under other names resolves the renamed pairs to the renamed
conversions. Its targets are the renamed ones, but it lists them in its own order of types; so the
diagnostic for a missing conversion may name them in another order, and that is all that differs.
-/

set_option autoImplicit false

namespace NativeBinding

variable {r : Name → Name}

theorem Conversion.pair_rename (conversion : Conversion) :
    (conversion.rename r).pair = conversion.pair.rename r := rfl

namespace ConversionTable

def Step.names : Step → List Name
  | register conversion | unregister conversion => conversion.names

def Step.rename (r : Name → Name) : Step → Step
  | register conversion => register (conversion.rename r)
  | unregister conversion => unregister (conversion.rename r)

/-- The second table holds the renamed conversions of the first one and no others. -/
structure Renamed (r : Name → Name) (first second : ConversionTable) : Prop where
  candidates : ∀ pair, second.candidates (pair.rename r) =
    (first.candidates pair).map (Conversion.rename r)
  only : ∀ pair, second.candidates pair ≠ [] → ∃ original : TypePair, pair = original.rename r

theorem renamed_empty : Renamed r .empty .empty where
  candidates := fun _ => rfl
  only := fun _ held => absurd rfl held

section

variable {first second : ConversionTable}

theorem renamed_after (injective : Function.Injective r) (renamed : Renamed r first second)
    (step : Step) : Renamed r (first.after step) (second.after (step.rename r)) where
  candidates := by
    intro pair
    have conversions := Conversion.rename_injective injective
    cases step with
    | register conversion =>
        simp only [after, Step.rename, candidates_register, renamed.candidates,
          Conversion.pair_rename, (TypePair.rename_injective injective).eq_iff,
          List.mem_map_of_injective conversions]
        split
        · rw [List.map_append, List.map_singleton]
        · rfl
    | unregister conversion =>
        simp only [after, Step.rename, candidates_unregister, renamed.candidates,
          Conversion.pair_rename, (TypePair.rename_injective injective).eq_iff]
        split
        · rw [List.filter_map]
          congr 2
          funext other
          simp [conversions.eq_iff]
        · rfl
  only := by
    intro pair held
    obtain ⟨conversion, listed⟩ := List.exists_mem_of_ne_nil _ held
    rcases held_after listed with earlier | ⟨registered, own⟩
    · exact renamed.only pair (List.ne_nil_of_mem earlier)
    · cases step with
      | register original =>
          cases registered
          exact ⟨original.pair, own.symm⟩
      | unregister gone => cases registered

theorem renamed_run (injective : Function.Injective r) (renamed : Renamed r first second)
    (steps : List Step) : Renamed r (first.run steps) (second.run (steps.map (Step.rename r))) := by
  unfold run
  induction steps generalizing first second with
  | nil => exact renamed
  | cons step rest ih => exact ih (renamed_after injective renamed step)

theorem resolve_rename (renamed : Renamed r first second) (pair : TypePair) :
    second.resolve (pair.rename r) = (first.resolve pair).map (Conversion.rename r) := by
  unfold resolve
  rw [renamed.candidates]
  match first.candidates pair with
  | [] => rfl
  | [conversion] => rfl
  | conversion :: other :: rest =>
      simp only [List.map_cons, List.length_cons, List.length_map]
      rfl

/-- The targets are the same, but each table lists them in the order of its own types. -/
theorem targets_rename (injective : Function.Injective r) (renamed : Renamed r first second)
    (source : ValueType) :
    (second.targetsFrom (source.rename r)).Perm
      ((first.targetsFrom source).map (ValueType.rename r)) := by
  have types := ValueType.rename_injective injective
  rw [List.perm_ext_iff_of_nodup (nodup_targetsFrom second _)
    ((nodup_targetsFrom first source).map types)]
  have one : ∀ target, (second.candidates ⟨source.rename r, target.rename r⟩).length =
      (first.candidates ⟨source, target⟩).length := by
    intro target
    have candidates := renamed.candidates ⟨source, target⟩
    unfold TypePair.rename at candidates
    rw [candidates, List.length_map]
  intro target
  rw [mem_targetsFrom_iff, List.mem_map]
  constructor
  · intro single
    -- A target of the second table alone cannot be: what it holds stands under renamed pairs.
    have held : second.candidates ⟨source.rename r, target⟩ ≠ [] := by
      intro nothing
      rw [nothing] at single
      cases single
    obtain ⟨original, same⟩ := renamed.only _ held
    obtain ⟨sources, rfl⟩ := TypePair.mk.inj same
    rw [one] at single
    exact ⟨original.target, (mem_targetsFrom_iff ..).2 single, rfl⟩
  · rintro ⟨original, listed, rfl⟩
    rw [one]
    exact (mem_targetsFrom_iff ..).1 listed

theorem names_held {table : ConversionTable} {steps : List Step} {pair : TypePair}
    {conversion : Conversion} (held : conversion ∈ (table.run steps).candidates pair) :
    conversion.names ⊆ steps.flatMap Step.names ∨ conversion ∈ table.candidates pair := by
  unfold run at held
  induction steps generalizing table with
  | nil => exact .inr held
  | cons step rest ih =>
      rw [List.flatMap_cons]
      rcases ih held with later | earlier
      · exact .inl (List.subset_append_of_subset_right step.names later)
      · rcases held_after earlier with before | ⟨rfl, -⟩
        · exact .inr before
        · exact .inl (List.subset_append_left _ _)

/-- A target that is listed is the target of a conversion, which a step has registered. -/
theorem names_listed {steps : List Step} {source target : ValueType}
    (listed : target ∈ (empty.run steps).targetsFrom source) :
    target.names ⊆ steps.flatMap Step.names := by
  have one := (mem_targetsFrom_iff _ source target).1 listed
  obtain ⟨conversion, only⟩ := List.length_eq_one_iff.1 one
  have held : conversion ∈ (empty.run steps).candidates ⟨source, target⟩ := by
    rw [only]
    exact List.mem_singleton_self conversion
  have own := keyed_run keyed_empty steps _ conversion held
  have same : conversion.target = target := congrArg TypePair.target own
  rcases names_held held with used | nothing
  · rw [← same]
    exact fun name mentioned => used (List.mem_cons_of_mem _ (List.mem_append_right _ mentioned))
  · cases nothing

end

/-- But for the notes, a diagnostic tells of its pair and of nothing else in the table. -/
theorem diagnostic_rename (first second : ConversionTable) {spell respell : Spelling} (span : Span)
    {pair : TypePair} (error : ConversionError)
    (respells : Respells r spell respell pair.names) :
    { second.diagnostic respell span (pair.rename r) error with notes := [] } =
      { first.diagnostic spell span pair error with notes := [] } := by
  obtain ⟨sourceRespells, targetRespells⟩ := respells_append.1 respells
  have source : (pair.rename r).source.text respell = pair.source.text spell :=
    ValueType.text_rename sourceRespells
  have target : (pair.rename r).target.text respell = pair.target.text spell :=
    ValueType.text_rename targetRespells
  unfold diagnostic
  rw [source, target]
  cases error with
  | ambiguous count => rfl
  | missing =>
      unfold alternatives
      cases first.targetsFrom pair.source <;>
        cases second.targetsFrom (pair.rename r).source <;> rfl

theorem target_texts_rename (injective : Function.Injective r) {first second : ConversionTable}
    (renamed : Renamed r first second) {spell respell : Spelling} {source : ValueType}
    (respells : ∀ target ∈ first.targetsFrom source, Respells r spell respell target.names) :
    ((second.targetsFrom (source.rename r)).map (ValueType.text respell)).Perm
      ((first.targetsFrom source).map (ValueType.text spell)) := by
  have texts : ((first.targetsFrom source).map (ValueType.rename r)).map (ValueType.text respell) =
      (first.targetsFrom source).map (ValueType.text spell) := by
    rw [List.map_map]
    apply List.map_congr_left
    intro target listed
    exact ValueType.text_rename (respells target listed)
  rw [← texts]
  exact (targets_rename injective renamed source).map _

end ConversionTable

end NativeBinding
