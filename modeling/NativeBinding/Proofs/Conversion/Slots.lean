import NativeBinding.Host.Routine
import NativeBinding.Proofs.Conversion.Steps

/-!
# Slots and results of a cast

A cast gets its slots when it is bound and its results when it runs, and both come from the
conversion that was bound last. So they agree in number however often the cast has been bound by
hand or by a check, to safe conversions and others, and whatever checks have failed in between.
-/

set_option autoImplicit false

namespace NativeBinding

/-- What a cast gives for the outcome of its routine: the value alone behind a safe conversion, and
behind any other the value with nil, or the zero of the target with the error. -/
inductive Conversion.Yields (conversion : Conversion) :
    Except String Value → List Value → Prop where
  | safe (safe : conversion.safe = true) (value : Value) : Yields conversion (.ok value) [value]
  | done (fallible : conversion.safe = false) (value : Value) :
      Yields conversion (.ok value) [value, .nil]
  | failed (fallible : conversion.safe = false) (message : String) :
      Yields conversion (.error message) [.zero conversion.target, .error message]

theorem Conversion.length_of_yields {conversion : Conversion} {outcome : Except String Value}
    {values : List Value} (yields : conversion.Yields outcome values) :
    values.length = conversion.arity := by
  unfold arity
  cases yields with
  | safe safe value => simp [safe]
  | done fallible value => simp [fallible]
  | failed fallible message => simp [fallible]

namespace RoutineTable

theorem results_eq_ok_iff (conversion : Conversion) (outcome : Except String Value)
    (values : List Value) :
    results conversion outcome = .ok values ↔ conversion.Yields outcome values := by
  constructor
  · intro answer
    unfold results at answer
    cases outcome with
    | ok value =>
        cases answer
        cases safe : conversion.safe with
        | false => exact .done safe value
        | true => exact .safe safe value
    | error message =>
        cases safe : conversion.safe with
        | false =>
            simp only [safe] at answer
            cases answer
            exact .failed safe message
        | true =>
            simp only [safe] at answer
            cases answer
  · intro yields
    unfold results
    cases yields with
    | safe safe value => simp [safe]
    | done fallible value => simp [fallible]
    | failed fallible message => simp [fallible]

theorem convert_eq_ok_iff (table : RoutineTable) (heap : Heap) (cast : Cast) (operand : Value)
    (values : List Value) :
    table.convert heap cast operand = .ok values ↔
      ∃ conversion routine, cast.conversion = some conversion ∧
        table.routines.find? conversion.routine = some routine ∧
        operand.type = conversion.source ∧
        conversion.Yields (routine heap operand) values := by
  constructor
  · intro answer
    rcases table.convert_cases heap cast operand with
      ⟨conversion, routine, bound, found, typed, runs⟩ | ⟨-, stuck⟩ | ⟨conversion, -, -, stuck⟩ |
        ⟨conversion, -, -, stuck⟩
    · rw [runs, results_eq_ok_iff] at answer
      exact ⟨conversion, routine, bound, found, typed, answer⟩
    all_goals
      rw [stuck] at answer
      cases answer
  · rintro ⟨conversion, routine, bound, found, typed, yields⟩
    rw [table.convert_bound heap bound found typed, results_eq_ok_iff]
    exact yields

/-- The error of a routine comes back as an error only behind a safe conversion. -/
theorem safe_of_safe_failed {table : RoutineTable} {heap : Heap} {cast : Cast} {operand : Value}
    {message : String} (failed : table.convert heap cast operand = .error (.safeFailed message)) :
    ∃ conversion, cast.conversion = some conversion ∧ conversion.safe = true := by
  rcases table.convert_cases heap cast operand with
    ⟨conversion, routine, bound, -, -, runs⟩ | ⟨-, stuck⟩ | ⟨conversion, -, -, stuck⟩ |
      ⟨conversion, -, -, stuck⟩
  · rw [runs] at failed
    rcases results_cases conversion (routine heap operand) with
      ⟨values, answer, -⟩ | ⟨-, safe, -, -⟩
    · rw [answer] at failed
      cases failed
    · exact ⟨conversion, bound, safe⟩
  all_goals
    rw [stuck] at failed
    cases failed

end RoutineTable

namespace Cast

/-- What happens to a cast of this target: it is bound to a conversion of the target, or checked
against a table of any history for an operand of any type. -/
inductive Step (target : ValueType) where
  | bind (conversion : Conversion) (fits : conversion.target = target)
  | check (history : List ConversionTable.Step) (source : ValueType)

variable {target : ValueType}

def after (cast : Cast) : Step target → Cast
  | .bind conversion _ => cast.bind conversion
  | .check history source =>
      match (ConversionTable.empty.run history).bindCast cast source with
      | .ok bound => bound
      | .error _ => cast

def run (cast : Cast) (steps : List (Step target)) : Cast := steps.foldl after cast

/-- The conversion that a step finds for the cast; a check that fails finds none. -/
def Step.found? : Step target → Option Conversion
  | .bind conversion _ => some conversion
  | .check history source =>
      ((ConversionTable.empty.run history).resolve ⟨source, target⟩).toOption

theorem target_found {step : Step target} {conversion : Conversion}
    (found : step.found? = some conversion) : conversion.target = target := by
  cases step with
  | bind own fits =>
      cases found
      exact fits
  | check history source =>
      cases resolved : (ConversionTable.empty.run history).resolve ⟨source, target⟩ with
      | error error =>
          simp only [Step.found?, resolved] at found
          cases found
      | ok held =>
          simp only [Step.found?, resolved] at found
          cases found
          have keyed := ConversionTable.keyed_run ConversionTable.keyed_empty history
          exact congrArg TypePair.target (ConversionTable.pair_of_resolved keyed resolved)

theorem after_found {cast : Cast} (typed : cast.target = target) (step : Step target) :
    cast.after step = step.found?.toList.foldl bind cast := by
  cases step with
  | bind conversion fits => rfl
  | check history source =>
      simp only [after, ConversionTable.bindCast, Step.found?, typed]
      cases (ConversionTable.empty.run history).resolve ⟨source, target⟩ <;> rfl

theorem target_foldl_bind (cast : Cast) (conversions : List Conversion) :
    (conversions.foldl bind cast).target = cast.target := by
  rw [foldl_bind]
  cases conversions.getLast? <;> rfl

/-- A run binds the cast to all that its steps find, one after the other. -/
theorem run_found {cast : Cast} (typed : cast.target = target) (steps : List (Step target)) :
    cast.run steps = (steps.filterMap Step.found?).foldl bind cast := by
  unfold run
  induction steps generalizing cast with
  | nil => rfl
  | cons step rest ih =>
      have next := after_found typed step
      -- The target stays, so what the checks of the rest look for does not depend on this step.
      have sameTarget : (cast.after step).target = target := by
        rw [next, target_foldl_bind, typed]
      rw [List.foldl_cons, ih sameTarget, next, List.filterMap_cons]
      cases step.found? <;> rfl

theorem run_unbound (operand : ExprId) (span : Span) (steps : List (Step target)) :
    (unbound operand target span).run steps =
      (steps.filterMap Step.found?).getLast?.elim (unbound operand target span)
        (unbound operand target span).bind := by
  have typed : (unbound operand target span).target = target := rfl
  rw [run_found typed, foldl_bind]

theorem conversion_run (operand : ExprId) (span : Span) (steps : List (Step target)) :
    ((unbound operand target span).run steps).conversion =
      (steps.filterMap Step.found?).getLast? := by
  rw [run_unbound]
  cases (steps.filterMap Step.found?).getLast? <;> rfl

/-- The slots are those of the conversion, which is one of the target. -/
structure Settled (target : ValueType) (cast : Cast) : Prop where
  unbound : cast.conversion = none → cast.slots = []
  bound : ∀ conversion, cast.conversion = some conversion →
    conversion.target = target ∧ cast.slots = conversion.slots

theorem settled_run (operand : ExprId) (span : Span) (steps : List (Step target)) :
    Settled target ((unbound operand target span).run steps) := by
  rw [run_unbound]
  cases last : (steps.filterMap Step.found?).getLast? with
  | none =>
      refine ⟨fun _ => rfl, ?_⟩
      intro conversion impossible
      cases impossible
  | some conversion =>
      refine ⟨fun impossible => ?_, ?_⟩
      · cases impossible
      · intro current same
        cases same
        obtain ⟨step, -, found⟩ := List.mem_filterMap.1 (List.mem_of_getLast? last)
        exact ⟨target_found found, rfl⟩

theorem slots_eq_nil_iff {cast : Cast} (settled : cast.Settled target) :
    cast.slots = [] ↔ cast.isBound = false := by
  unfold isBound
  cases current : cast.conversion with
  | none => simp [settled.unbound current]
  | some conversion =>
      have slots := (settled.bound conversion current).2
      have someSlot : conversion.slots ≠ [] := by
        unfold Conversion.slots
        split <;> simp
      simp [slots, someSlot]

theorem no_error_slot_iff (cast : Cast) :
    cast.hasErrorSlot = false ↔
      ∃ conversion, cast.conversion = some conversion ∧ conversion.safe = true := by
  unfold hasErrorSlot
  cases cast.conversion <;> simp

theorem length_results {cast : Cast} (settled : cast.Settled target) {routines : RoutineTable}
    {heap : Heap} {operand : Value} {values : List Value}
    (answer : routines.convert heap cast operand = .ok values) :
    values.length = cast.slots.length := by
  obtain ⟨conversion, routine, current, -, -, yields⟩ :=
    (routines.convert_eq_ok_iff heap cast operand values).1 answer
  rw [(settled.bound conversion current).2, conversion.length_slots]
  exact Conversion.length_of_yields yields

/-- However a cast has been bound and checked since it was made: the last conversion found for it is
the one that is bound, and decides the slots and what a run of the cast gives. So a run that gives
results gives one for each slot, and the error of a routine that may fail is among them. -/
theorem slots_and_results_agree (operand : ExprId) (span : Span) (steps : List (Step target)) :
    let cast := (unbound operand target span).run steps
    cast.conversion = (steps.filterMap Step.found?).getLast? ∧
      (cast.slots = [] ↔ cast.isBound = false) ∧
      (∀ conversion, cast.conversion = some conversion →
        conversion.target = target ∧ cast.slots = conversion.slots ∧
          cast.slots.length = conversion.arity ∧ cast.types.head? = some target) ∧
      (cast.hasErrorSlot = false ↔
        ∃ conversion, cast.conversion = some conversion ∧ conversion.safe = true) ∧
      ∀ (routines : RoutineTable) (heap : Heap) (value : Value),
        (∀ values, routines.convert heap cast value = .ok values ↔
          ∃ conversion routine, cast.conversion = some conversion ∧
            routines.routines.find? conversion.routine = some routine ∧
            value.type = conversion.source ∧
            conversion.Yields (routine heap value) values) ∧
        (∀ values, routines.convert heap cast value = .ok values →
          values.length = cast.slots.length) ∧
        ∀ message, routines.convert heap cast value = .error (.safeFailed message) →
          ∃ conversion, cast.conversion = some conversion ∧ conversion.safe = true := by
  intro cast
  have settled : cast.Settled target := settled_run operand span steps
  refine ⟨conversion_run operand span steps, slots_eq_nil_iff settled, ?_, no_error_slot_iff cast,
    ?_⟩
  · intro conversion current
    obtain ⟨fits, slots⟩ := settled.bound conversion current
    refine ⟨fits, slots, ?_, ?_⟩
    · rw [slots, conversion.length_slots]
    · unfold types
      rw [slots, ← fits]
      exact conversion.head_types
  · intro routines heap value
    exact ⟨routines.convert_eq_ok_iff heap cast value, fun values => length_results settled,
      fun message => RoutineTable.safe_of_safe_failed⟩

/-- Bound by hand to a safe conversion, checked in vain, then against a table with another one. -/
def boundTwice : List (Step .int) :=
  [.bind ⟨.float, .int, true, ⟨14⟩⟩ rfl, .check [] .json,
    .check [.register ⟨.json, .int, false, ⟨15⟩⟩] .json]

def refuses : Routine := fun _ _ => .error "nope"

theorem zero_beside_the_error :
    let cast := (unbound ⟨0⟩ .int .dummy).run boundTwice
    let routines := RoutineTable.empty.register ⟨15⟩ refuses
    cast.conversion = some ⟨.json, .int, false, ⟨15⟩⟩ ∧
      routines.convert .empty cast (.json .null) = .ok [.int 0, .error "nope"] ∧
      cast.slots.length = 2 := by
  intro cast routines
  obtain ⟨last, -, -, -, runs⟩ := slots_and_results_agree ⟨0⟩ .dummy boundTwice
  obtain ⟨answers, count, -⟩ := runs routines .empty (.json .null)
  have current : cast.conversion = some ⟨.json, .int, false, ⟨15⟩⟩ := last
  have answer := (answers [.int 0, .error "nope"]).2
    ⟨_, refuses, current, rfl, rfl, .failed rfl "nope"⟩
  exact ⟨current, answer, (count _ answer).symm⟩

end Cast

end NativeBinding
