/-!
# Where a text is cut

A part of a text whose characters are all of one sort ends where the first character of another sort
stands. So two texts that are put together of such a part and a rest, where the rest goes on with
another sort of character, agree in the parts if they agree as a whole.
-/

set_option autoImplicit false

namespace NativeBinding.Text

/-- The text does not go on with a character of this sort. -/
def EndsSort (sort : Char → Prop) (rest : List Char) : Prop :=
  ∀ c, rest.head? = some c → ¬sort c

theorem endsSort_nil (sort : Char → Prop) : EndsSort sort [] := by
  intro c impossible
  cases impossible

theorem endsSort_cons {sort : Char → Prop} {c : Char} (other : ¬sort c) (rest : List Char) :
    EndsSort sort (c :: rest) := by
  intro head same
  cases same
  exact other

theorem cut_unique {sort : Char → Prop} {left right leftRest rightRest : List Char}
    (leftSort : ∀ c ∈ left, sort c) (rightSort : ∀ c ∈ right, sort c)
    (leftEnds : EndsSort sort leftRest) (rightEnds : EndsSort sort rightRest)
    (same : left ++ leftRest = right ++ rightRest) : left = right ∧ leftRest = rightRest := by
  induction left generalizing right with
  | nil =>
      cases right with
      | nil => exact ⟨rfl, same⟩
      | cons c right =>
          rw [List.nil_append, List.cons_append] at same
          rw [same] at leftEnds
          exact absurd (rightSort c List.mem_cons_self) (leftEnds c rfl)
  | cons c left ih =>
      cases right with
      | nil =>
          rw [List.nil_append, List.cons_append] at same
          rw [← same] at rightEnds
          exact absurd (leftSort c List.mem_cons_self) (rightEnds c rfl)
      | cons other right =>
          obtain ⟨rfl, sameTails⟩ := List.cons.inj same
          obtain ⟨rfl, sameRests⟩ := ih (fun d member => leftSort d (List.mem_cons_of_mem _ member))
            (fun d member => rightSort d (List.mem_cons_of_mem _ member)) sameTails
          exact ⟨rfl, sameRests⟩

/-- Before the first separator the parts agree, and behind it the rests do. -/
theorem cut_at {separator : Char} {left right leftRest rightRest : List Char}
    (notLeft : separator ∉ left) (notRight : separator ∉ right)
    (same : left ++ separator :: leftRest = right ++ separator :: rightRest) :
    left = right ∧ leftRest = rightRest := by
  have ends (rest : List Char) : EndsSort (· ≠ separator) (separator :: rest) :=
    endsSort_cons (not_not_intro rfl) rest
  obtain ⟨sameParts, sameRests⟩ :=
    cut_unique (List.forall_mem_ne'.2 notLeft) (List.forall_mem_ne'.2 notRight) (ends _) (ends _)
      same
  exact ⟨sameParts, (List.cons.inj sameRests).2⟩

end NativeBinding.Text
