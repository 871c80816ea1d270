/-!
# The last write decides

Part of a state that every step either overwrites or leaves alone is, after a run, what the last
step that overwrote it put there. What a step has made is still there if no later step undoes it.
-/

set_option autoImplicit false

namespace NativeBinding

theorem last_write_of_run {State Step Part : Type} {after : State → Step → State}
    (part : State → Part) {write? : Step → Option Part}
    (one : ∀ state step, part (after state step) = (write? step).getD (part state))
    (steps : List Step) (state : State) :
    part (steps.foldl after state) =
      ((steps.filterMap write?).getLast?).getD (part state) := by
  induction steps generalizing state with
  | nil => rfl
  | cons step rest ih =>
      rw [List.foldl_cons, ih, one]
      cases write : write? step with
      | none => rw [List.filterMap_cons_none write, Option.getD_none]
      | some value =>
          rw [List.filterMap_cons_some write, List.getLast?_cons, Option.getD_some,
            Option.getD_some]

theorem made_snoc_iff {Step : Type} (made : Step) (undoes : Step → Prop) (steps : List Step)
    (step : Step) :
    (∃ earlier later, steps ++ [step] = earlier ++ made :: later ∧
        ∀ other ∈ later, ¬undoes other) ↔
      step = made ∨ ((∃ earlier later, steps = earlier ++ made :: later ∧
        ∀ other ∈ later, ¬undoes other) ∧ ¬undoes step) := by
  constructor
  · rintro ⟨earlier, later, split, stays⟩
    rcases List.eq_nil_or_concat later with rfl | ⟨before, last, rfl⟩
    · exact .inl (List.append_inj_right' split rfl |> List.singleton_inj.1)
    · rw [List.concat_eq_append, ← List.cons_append, ← List.append_assoc] at split
      have sameSteps := List.append_inj_left' split rfl
      have sameStep := List.singleton_inj.1 (List.append_inj_right' split rfl)
      rw [List.concat_eq_append, List.forall_mem_append, List.forall_mem_singleton] at stays
      rw [sameStep]
      exact .inr ⟨⟨earlier, before, sameSteps, stays.1⟩, stays.2⟩
  · rintro (rfl | ⟨⟨earlier, later, rfl, stays⟩, other⟩)
    · exact ⟨steps, [], rfl, by simp⟩
    · refine ⟨earlier, later ++ [step], by simp, ?_⟩
      rw [List.forall_mem_append, List.forall_mem_singleton]
      exact ⟨stays, other⟩

end NativeBinding
