import NativeBinding.Proofs.Conversion.Steps
import NativeBinding.Proofs.Conversion.Targets
import NativeBinding.Proofs.ValueType.Precedence

/-!
# The alternatives of a failed conversion

A conversion that is missing is reported with the targets that its source converts to. These are
the targets for which the table resolves, in the order of types. Whoever visits the entries of the
table in another order and sorts what is found lists the same.
-/

set_option autoImplicit false

namespace NativeBinding.ConversionTable

theorem one_candidate_iff (table : ConversionTable) (pair : TypePair) :
    (table.candidates pair).length = 1 ↔ ∃ conversion, table.resolve pair = .ok conversion := by
  simp only [resolve_eq_ok_iff]
  exact List.length_eq_one_iff

/-- The targets as a listing that is sorted at the end finds them, in any order of visits. -/
def sortedTargets (visited : List (TypePair × List Conversion)) (source : ValueType) :
    List ValueType :=
  ((visited.filter fun entry => entry.1.source = source ∧ entry.2.length = 1).map
    fun entry => entry.1.target).mergeSort fun left right => (compare left right).isLE

theorem ascending_sortedTargets (visited : List (TypePair × List Conversion))
    (source : ValueType) :
    (sortedTargets visited source).Pairwise fun left right => (compare left right).isLE = true := by
  apply List.pairwise_mergeSort
  · intro first second third
    exact Std.TransCmp.isLE_trans
  · intro left right
    have turned : (compare right left).isLE = (compare left right).isGE :=
      Std.OrientedCmp.isGE_eq_isLE.symm
    rw [turned]
    cases compare left right <;> rfl

/-- The entries may be visited in any order. -/
theorem sortedTargets_of_perm {table : ConversionTable}
    {visited : List (TypePair × List Conversion)} (perm : visited.Perm table.byPair.entries)
    (source : ValueType) : sortedTargets visited source = table.targetsFrom source := by
  apply List.Perm.eq_of_pairwise _ (ascending_sortedTargets visited source)
  · apply (ascending_targetsFrom table source).imp
    intro left right before
    rw [before]
    rfl
  · exact (List.mergeSort_perm _ _).trans ((perm.filter _).map _)
  · intro left right _ _ before after
    exact Std.LawfulEqCmp.eq_of_compare (Std.OrientedCmp.isLE_antisymm before after)

/-- The targets of a type are those for which its conversion resolves, in the order of types; the
diagnostic for a missing conversion quotes them all, if there are any, and not the missing one. -/
theorem alternatives_are_what_resolves (table : ConversionTable) (source : ValueType) :
    IsStrictTotalOrder ValueType ValueType.Precedes ∧
    (table.targetsFrom source).Pairwise ValueType.Precedes ∧
    (∀ visited : List (TypePair × List Conversion), visited.Perm table.byPair.entries →
      sortedTargets visited source = table.targetsFrom source) ∧
    (∀ target, target ∈ table.targetsFrom source ↔
      ∃ conversion, table.resolve ⟨source, target⟩ = .ok conversion) ∧
    ∀ (spell : Spelling) (span : Span) (target : ValueType),
      table.resolve ⟨source, target⟩ = .error .missing →
        ((table.diagnostic spell span ⟨source, target⟩ .missing).notes ≠ [] ↔
          ∃ other conversion, table.resolve ⟨source, other⟩ = .ok conversion) ∧
        (table.targetsFrom source ≠ [] →
          (table.diagnostic spell span ⟨source, target⟩ .missing).notes =
            ["`" ++ source.text spell ++ "` converts to " ++
              ", ".intercalate ((table.targetsFrom source).map fun other =>
                "`" ++ other.text spell ++ "`")]) ∧
        target ∉ table.targetsFrom source := by
  have resolves : ∀ target, target ∈ table.targetsFrom source ↔
      ∃ conversion, table.resolve ⟨source, target⟩ = .ok conversion := by
    intro target
    rw [mem_targetsFrom_iff, one_candidate_iff]
  refine ⟨inferInstance, ?_, ?_, resolves, ?_⟩
  · apply (ascending_targetsFrom table source).imp
    intro left right
    exact (ValueType.precedes_iff left right).2
  · intro visited perm
    exact sortedTargets_of_perm perm source
  · intro spell span target missing
    have anyTarget : table.targetsFrom source ≠ [] ↔
        ∃ other conversion, table.resolve ⟨source, other⟩ = .ok conversion := by
      constructor
      · intro some
        obtain ⟨other, listed⟩ := List.exists_mem_of_ne_nil _ some
        exact ⟨other, (resolves other).1 listed⟩
      · intro found
        obtain ⟨other, resolved⟩ := found
        exact List.ne_nil_of_mem ((resolves other).2 resolved)
    rw [diagnostic_notes, ← anyTarget]
    refine ⟨?_, ?_, ?_⟩
    · simp [ConversionError.notes]
    · intro some
      simp [ConversionError.notes, some, Function.comp_def]
    · intro listed
      obtain ⟨conversion, resolved⟩ := (resolves target).1 listed
      rw [missing] at resolved
      cases resolved

/-- Neither a target with two conversions nor one whose conversion is gone is offered. -/
theorem shallow_arrays_listed_first :
    let table := empty.run
      [.register ⟨.json, .array (.array .int), false, ⟨1⟩⟩, .register ⟨.json, .xml, false, ⟨2⟩⟩,
        .register ⟨.json, .xml, true, ⟨3⟩⟩, .register ⟨.json, .array .int, false, ⟨4⟩⟩,
        .register ⟨.json, .blob, true, ⟨5⟩⟩, .register ⟨.json, .string, true, ⟨6⟩⟩,
        .unregister ⟨.json, .blob, true, ⟨5⟩⟩, .register ⟨.xml, .map, true, ⟨7⟩⟩]
    table.resolve ⟨.json, .map⟩ = .error .missing ∧
      sortedTargets table.byPair.entries.reverse .json =
        [.string, .array .int, .array (.array .int)] ∧
      (table.diagnostic Name.dump .dummy ⟨.json, .map⟩ .missing).notes =
        ["`json` converts to `string`, `int[]`, `int[][]`"] := by
  intro table
  have missing : table.resolve ⟨.json, .map⟩ = .error .missing := by rfl
  have listed : table.targetsFrom .json = [.string, .array .int, .array (.array .int)] := by
    decide
  obtain ⟨-, -, visits, -, reports⟩ := alternatives_are_what_resolves table .json
  obtain ⟨-, quoted, -⟩ := reports Name.dump .dummy .map missing
  rw [visits _ (List.reverse_perm _), quoted (by simp [listed]), listed]
  exact ⟨missing, rfl, rfl⟩

end NativeBinding.ConversionTable
