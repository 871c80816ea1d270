import Mathlib.Data.Finset.Card
import Mathlib.Data.List.Induction
import NativeBinding.Proofs.Conversion.Steps
import NativeBinding.Proofs.LastWrite

/-!
# The table as a set of conversions

A table keeps its conversions in lists by pair. To whoever registers, unregisters, counts and
resolves, it is the set of the conversions that were registered and not taken out since. What makes
the lists answer for the set: each holds conversions of its own pair, none twice, and none is empty.
-/

set_option autoImplicit false

namespace NativeBinding.ConversionTable

/-- The conversion was registered and has not been taken out since. -/
def Remains (conversion : Conversion) (steps : List Step) : Prop :=
  ∃ earlier later, steps = earlier ++ .register conversion :: later ∧
    .unregister conversion ∉ later

/-- The set that a step leaves of a set of conversions. -/
def Step.leaves (step : Step) (held : Finset Conversion) : Finset Conversion :=
  match step with
  | .register conversion => insert conversion held
  | .unregister conversion => held.erase conversion

def remaining (steps : List Step) : Finset Conversion :=
  steps.foldl (fun held step => step.leaves held) ∅

theorem remaining_snoc (steps : List Step) (step : Step) :
    remaining (steps ++ [step]) = step.leaves (remaining steps) :=
  List.foldl_append

theorem remains_snoc (conversion : Conversion) (steps : List Step) (step : Step) :
    Remains conversion (steps ++ [step]) ↔
      step = .register conversion ∨
        (Remains conversion steps ∧ step ≠ .unregister conversion) := by
  have onward := made_snoc_iff (.register conversion) (· = .unregister conversion) steps step
  simp only [List.forall_mem_ne'] at onward
  exact onward

theorem mem_remaining_iff (conversion : Conversion) (steps : List Step) :
    conversion ∈ remaining steps ↔ Remains conversion steps := by
  induction steps using List.reverseRecOn with
  | nil => simp [remaining, Remains]
  | append_singleton steps step ih =>
      rw [remaining_snoc, remains_snoc, ← ih]
      cases step with
      | register registered => simp [Step.leaves, eq_comm]
      | unregister gone => simp [Step.leaves, and_comm, eq_comm]

/-- The table answers for a set: its lists hold the members of their own pairs, each member once,
and there is a list only where there is a member. -/
structure Refines (table : ConversionTable) (held : Finset Conversion) : Prop where
  members : ∀ pair conversion,
    conversion ∈ table.candidates pair ↔ conversion ∈ held ∧ conversion.pair = pair
  distinct : ∀ pair, (table.candidates pair).Nodup
  occupied : ∀ pair, table.byPair.find? pair ≠ some []

theorem refines_empty : Refines .empty ∅ where
  members := by
    intro pair conversion
    simp [candidates, empty]
  distinct := fun _ => List.nodup_nil
  occupied := by
    intro pair found
    cases found

section

variable {table : ConversionTable} {held : Finset Conversion}

theorem members_register (refines : table.Refines held) (registered conversion : Conversion)
    (pair : TypePair) :
    conversion ∈ (table.register registered).1.candidates pair ↔
      conversion ∈ insert registered held ∧ conversion.pair = pair := by
  rw [candidates_register, Finset.mem_insert]
  split
  · next new =>
      rw [List.mem_append, List.mem_singleton, refines.members]
      constructor
      · intro listed
        rcases listed with ⟨inHeld, own⟩ | rfl
        · exact ⟨.inr inHeld, own⟩
        · exact ⟨.inl rfl, new.1.symm⟩
      · intro member
        rcases member with ⟨rfl | inHeld, own⟩
        · exact .inr rfl
        · exact .inl ⟨inHeld, own⟩
  · next old =>
      rw [refines.members]
      constructor
      · intro listed
        exact ⟨.inr listed.1, listed.2⟩
      · intro member
        rcases member with ⟨rfl | inHeld, own⟩
        · by_contra notHeld
          apply old
          exact ⟨own.symm, fun listed => notHeld ((refines.members pair _).1 listed)⟩
        · exact ⟨inHeld, own⟩

theorem members_unregister (refines : table.Refines held) (gone conversion : Conversion)
    (pair : TypePair) :
    conversion ∈ (table.unregister gone).1.candidates pair ↔
      conversion ∈ held.erase gone ∧ conversion.pair = pair := by
  rw [candidates_unregister, Finset.mem_erase]
  split
  · simp [refines.members, and_comm, and_assoc]
  · next elsewhere =>
      rw [refines.members]
      constructor
      · intro listed
        have other : conversion ≠ gone := by
          intro same
          rw [← same] at elsewhere
          exact elsewhere listed.2.symm
        exact ⟨⟨other, listed.1⟩, listed.2⟩
      · intro member
        exact ⟨member.1.2, member.2⟩

theorem distinct_after (refines : table.Refines held) (step : Step) (pair : TypePair) :
    ((table.after step).candidates pair).Nodup := by
  have distinct := refines.distinct pair
  cases step with
  | register conversion =>
      rw [after, candidates_register]
      split
      · next new =>
          rw [← List.concat_eq_append, List.nodup_concat]
          exact ⟨new.2, distinct⟩
      · exact distinct
  | unregister gone =>
      rw [after, candidates_unregister]
      split
      · exact distinct.filter _
      · exact distinct

/-- The last conversion of a pair takes the entry of the pair with it. -/
theorem occupied_after (refines : table.Refines held) (step : Step) (pair : TypePair) :
    (table.after step).byPair.find? pair ≠ some [] := by
  have occupied := refines.occupied pair
  cases step with
  | register conversion =>
      simp only [after, register]
      split
      · exact occupied
      · rw [OrderedMap.find?_insert]
        split
        · simp
        · exact occupied
  | unregister gone =>
      simp only [after, unregister]
      split
      · split
        · rw [OrderedMap.find?_erase]
          split
          · simp
          · exact occupied
        · next left =>
            rw [OrderedMap.find?_insert]
            split
            · simpa using left
            · exact occupied
      · exact occupied

theorem refines_after (refines : table.Refines held) (step : Step) :
    (table.after step).Refines (step.leaves held) where
  members := by
    intro pair conversion
    cases step with
    | register registered => exact members_register refines registered conversion pair
    | unregister gone => exact members_unregister refines gone conversion pair
  distinct := distinct_after refines step
  occupied := occupied_after refines step

theorem refines_run (steps : List Step) : (empty.run steps).Refines (remaining steps) := by
  induction steps using List.reverseRecOn with
  | nil => exact refines_empty
  | append_singleton steps step ih =>
      rw [run_snoc, remaining_snoc]
      exact refines_after ih step

theorem mem_own_iff (refines : table.Refines held) (conversion : Conversion) :
    conversion ∈ table.candidates conversion.pair ↔ conversion ∈ held := by
  rw [refines.members]
  exact and_iff_left rfl

theorem mem_values_iff (refines : table.Refines held) (conversion : Conversion) :
    conversion ∈ table.byPair.values.flatten ↔ conversion ∈ held := by
  rw [← mem_own_iff refines, List.mem_flatten]
  constructor
  · intro somewhere
    obtain ⟨conversions, listed, member⟩ := somewhere
    obtain ⟨pair, found⟩ := (table.byPair.mem_values_iff conversions).1 listed
    rw [← candidates_of_found found] at member
    rw [((refines.members pair conversion).1 member).2]
    exact member
  · intro own
    cases found : table.byPair.find? conversion.pair with
    | none =>
        unfold candidates at own
        rw [found] at own
        cases own
    | some conversions =>
        rw [candidates_of_found found] at own
        exact ⟨conversions, (table.byPair.mem_values_iff conversions).2 ⟨_, found⟩, own⟩

/-- Lists of different pairs share nothing, as each holds conversions of its own pair. -/
theorem values_nodup (refines : table.Refines held) : table.byPair.values.flatten.Nodup := by
  rw [List.nodup_flatten]
  constructor
  · intro conversions listed
    obtain ⟨pair, found⟩ := (table.byPair.mem_values_iff conversions).1 listed
    rw [← candidates_of_found found]
    exact refines.distinct pair
  · apply table.byPair.pairwise_values
    intro pair other conversions others different found otherFound conversion first second
    rw [← candidates_of_found found] at first
    rw [← candidates_of_found otherFound] at second
    apply different
    rw [← ((refines.members pair conversion).1 first).2]
    exact ((refines.members other conversion).1 second).2

theorem size_eq_card (refines : table.Refines held) : table.size = held.card := by
  have same : table.byPair.values.flatten.toFinset = held := by
    ext conversion
    rw [List.mem_toFinset]
    exact mem_values_iff refines conversion
  rw [← same, List.toFinset_card_of_nodup (values_nodup refines)]
  rfl

theorem isEmpty_iff (refines : table.Refines held) : table.isEmpty = true ↔ held = ∅ := by
  unfold isEmpty OrderedMap.isEmpty
  rw [List.isEmpty_iff]
  constructor
  · intro nothing
    ext conversion
    rw [← mem_values_iff refines, OrderedMap.values, nothing]
    simp
  · intro nothing
    apply List.eq_nil_iff_forall_not_mem.2
    intro entry listed
    obtain ⟨pair, conversions⟩ := entry
    have found := table.byPair.mem_entries_iff.1 listed
    cases conversions with
    | nil => exact refines.occupied pair found
    | cons conversion rest =>
        have member : conversion ∈ table.candidates pair := by
          rw [candidates_of_found found]
          exact List.mem_cons_self
        have inHeld := ((refines.members pair conversion).1 member).1
        rw [nothing] at inHeld
        exact absurd inHeld (Finset.notMem_empty conversion)

/-- The members of a pair, which are what the pair resolves by. -/
def between (held : Finset Conversion) (pair : TypePair) : Finset Conversion :=
  held.filter fun conversion => conversion.pair = pair

theorem candidates_toFinset (refines : table.Refines held) (pair : TypePair) :
    (table.candidates pair).toFinset = between held pair := by
  ext conversion
  rw [List.mem_toFinset, refines.members, between, Finset.mem_filter]

theorem candidates_length (refines : table.Refines held) (pair : TypePair) :
    (table.candidates pair).length = (between held pair).card := by
  rw [← candidates_toFinset refines, List.toFinset_card_of_nodup (refines.distinct pair)]

theorem resolve_only_iff (refines : table.Refines held) (pair : TypePair)
    (conversion : Conversion) :
    table.resolve pair = .ok conversion ↔ between held pair = {conversion} := by
  rw [resolve_eq_ok_iff, ← candidates_toFinset refines]
  constructor
  · intro only
    rw [only]
    rfl
  · intro only
    have one : (table.candidates pair).length = 1 := by
      rw [← List.toFinset_card_of_nodup (refines.distinct pair), only, Finset.card_singleton]
    obtain ⟨other, alone⟩ := List.length_eq_one_iff.1 one
    rw [alone] at only ⊢
    have same : other = conversion := by simpa using only
    rw [same]

theorem resolve_none_iff (refines : table.Refines held) (pair : TypePair) :
    table.resolve pair = .error .missing ↔ between held pair = ∅ := by
  rw [resolve_eq_missing_iff, ← candidates_toFinset refines, List.toFinset_eq_empty_iff]

theorem resolve_several_iff (refines : table.Refines held) (pair : TypePair) (count : Nat) :
    table.resolve pair = .error (.ambiguous count) ↔
      (between held pair).card = count ∧ 2 ≤ count := by
  rw [resolve_eq_ambiguous_iff, candidates_length refines]

/-- Tables that answer for one set resolve alike, in whatever order they came by it. -/
theorem resolve_by_set {other : ConversionTable} (refines : table.Refines held)
    (otherRefines : other.Refines held) (pair : TypePair) :
    other.resolve pair = table.resolve pair := by
  cases resolved : table.resolve pair with
  | ok conversion =>
      rw [resolve_only_iff otherRefines]
      exact (resolve_only_iff refines pair conversion).1 resolved
  | error error =>
      cases error with
      | missing =>
          rw [resolve_none_iff otherRefines]
          exact (resolve_none_iff refines pair).1 resolved
      | ambiguous count =>
          rw [resolve_several_iff otherRefines]
          exact (resolve_several_iff refines pair count).1 resolved

end

/-- Whatever has been registered and unregistered: the table answers, counts and resolves as the set
of the conversions that remain, so the order in which they were registered does not matter. -/
theorem table_refines_set (steps : List Step) :
    let table := empty.run steps
    let held := remaining steps
    (∀ conversion, conversion ∈ held ↔ Remains conversion steps) ∧
      (∀ conversion, (table.register conversion).2 = true ↔ conversion ∉ held) ∧
      (∀ conversion, (table.unregister conversion).2 = true ↔ conversion ∈ held) ∧
      table.size = held.card ∧
      (table.isEmpty = true ↔ held = ∅) ∧
      (∀ pair conversion,
        table.resolve pair = .ok conversion ↔ between held pair = {conversion}) ∧
      (∀ pair, table.resolve pair = .error .missing ↔ between held pair = ∅) ∧
      (∀ pair count, table.resolve pair = .error (.ambiguous count) ↔
        (between held pair).card = count ∧ 2 ≤ count) ∧
      ∀ others, remaining others = held →
        ∀ pair, (empty.run others).resolve pair = table.resolve pair := by
  intro table held
  have refines : table.Refines held := refines_run steps
  refine ⟨fun conversion => mem_remaining_iff conversion steps, ?_, ?_, size_eq_card refines,
    isEmpty_iff refines, resolve_only_iff refines, resolve_none_iff refines,
    resolve_several_iff refines, ?_⟩
  · intro conversion
    rw [register_new_iff, mem_own_iff refines]
  · intro conversion
    rw [unregister_held_iff, mem_own_iff refines]
  · intro others same pair
    apply resolve_by_set refines
    rw [← same]
    exact refines_run others

def truncation : Conversion := ⟨.float, .int, true, ⟨14⟩⟩

/-- Another conversion of the same pair. -/
def rounding : Conversion := ⟨.float, .int, false, ⟨15⟩⟩

/-- Registers both conversions, and takes out the first one only to register it again. -/
def registeredAgain : List Step :=
  [.register truncation, .register rounding, .unregister truncation, .register truncation]

theorem reordered_table_resolves_alike :
    let table := empty.run registeredAgain
    let inOrder := [Step.register truncation, .register rounding]
    table.candidates truncation.pair ≠ (empty.run inOrder).candidates truncation.pair ∧
      Remains truncation registeredAgain ∧
      remaining inOrder = remaining registeredAgain ∧
      (empty.run inOrder).resolve truncation.pair = table.resolve truncation.pair ∧
      table.resolve truncation.pair = .error (.ambiguous 2) ∧
      table.size = 2 := by
  intro table inOrder
  have sameSet : remaining inOrder = remaining registeredAgain := by decide
  obtain ⟨stays, -, -, size, -, -, -, several, alike⟩ := table_refines_set registeredAgain
  refine ⟨by decide, (stays truncation).1 (by decide), sameSet,
    alike inOrder sameSet truncation.pair, ?_, size⟩
  exact (several truncation.pair 2).2 (by decide)

end NativeBinding.ConversionTable
