import NativeBinding.Conversion.Check

/-!
# The targets of a type

A type converts to those targets for which exactly one conversion is registered. They are listed in
the order of types, so without repetition, and the diagnostic for a missing conversion quotes them.
-/

set_option autoImplicit false

namespace NativeBinding

namespace ConversionTable

theorem mem_targetsFrom_iff (table : ConversionTable) (source target : ValueType) :
    target ∈ table.targetsFrom source ↔ (table.candidates ⟨source, target⟩).length = 1 := by
  unfold targetsFrom
  simp only [List.mem_map, List.mem_filter, decide_eq_true_eq]
  constructor
  · rintro ⟨⟨⟨origin, reached⟩, held⟩, ⟨listed, rfl, one⟩, rfl⟩
    rw [candidates_of_found (table.byPair.mem_entries_iff.1 listed)]
    exact one
  · intro one
    cases found : table.byPair.find? ⟨source, target⟩ with
    | none =>
        unfold candidates at one
        rw [found] at one
        cases one
    | some held =>
        rw [candidates_of_found found] at one
        exact ⟨(⟨source, target⟩, held), ⟨table.byPair.mem_entries_iff.2 found, rfl, one⟩, rfl⟩

theorem ascending_targetsFrom (table : ConversionTable) (source : ValueType) :
    (table.targetsFrom source).Pairwise fun left right => compare left right = .lt := by
  unfold targetsFrom
  rw [List.pairwise_map]
  refine (table.byPair.ascending.filter _).imp_of_mem ?_
  intro first second firstListed secondListed before
  have firstSource := (List.mem_filter.1 firstListed).2
  have secondSource := (List.mem_filter.1 secondListed).2
  simp only [decide_eq_true_eq] at firstSource secondSource
  -- The sources of the two pairs are equal, so their targets decide.
  change (compare first.1.source second.1.source).then
    (compare first.1.target second.1.target) = .lt at before
  simpa only [firstSource.1, secondSource.1, Std.ReflCmp.compare_self, Ordering.then] using before

theorem nodup_targetsFrom (table : ConversionTable) (source : ValueType) :
    (table.targetsFrom source).Nodup := by
  apply (ascending_targetsFrom table source).imp
  intro left right before same
  simp only [same, Std.ReflCmp.compare_self, reduceCtorEq] at before

end ConversionTable

/-- The notes of a failed conversion, by the texts of the targets that would have worked. -/
def ConversionError.notes (source : String) (targets : List String) :
    ConversionError → List String
  | missing =>
      if targets = [] then []
      else ["`" ++ source ++ "` converts to " ++
        ", ".intercalate (targets.map fun target => "`" ++ target ++ "`")]
  | ambiguous _ => ["exactly one operator may be registered per type pair"]

namespace ConversionTable

theorem diagnostic_notes (table : ConversionTable) (spell : Spelling) (span : Span)
    (pair : TypePair) (error : ConversionError) :
    (table.diagnostic spell span pair error).notes =
      error.notes (pair.source.text spell)
        ((table.targetsFrom pair.source).map (ValueType.text spell)) := by
  cases error with
  | ambiguous count => rfl
  | missing =>
      unfold diagnostic alternatives
      cases table.targetsFrom pair.source with
      | nil => rfl
      | cons target rest =>
          simp [Diagnostic.decorateAll, Diagnostic.decorate, Diagnostic.error,
            ConversionError.notes, Function.comp_def]

end ConversionTable

end NativeBinding
