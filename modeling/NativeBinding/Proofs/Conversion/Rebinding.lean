import NativeBinding.Proofs.Conversion.Steps

/-!
# One cast checked again and again

A cast is checked against a table that changes between the checks. A check that succeeds binds the
one conversion that the table holds at that moment, whatever was bound before. A check that fails
does not touch the cast, so what the last successful check found stays bound, also after it has left
the table or has become one of several. Only a cast that no check has bound so far is left unbound.
-/

set_option autoImplicit false

namespace NativeBinding

/-- A cast and the table that it is checked against. -/
structure Recheck where
  table : ConversionTable
  cast : Cast

namespace Recheck

inductive Step where
  | edit (step : ConversionTable.Step)
  | check (source : ValueType)
  deriving DecidableEq, Repr

def after (state : Recheck) : Step → Recheck
  | .edit step => { state with table := state.table.after step }
  | .check source =>
      match state.table.bindCast state.cast source with
      | .ok cast => { state with cast }
      | .error _ => state

def run (state : Recheck) (steps : List Step) : Recheck := steps.foldl after state

/-- What the successful checks of a run find, in order. -/
def found (target : ValueType) (table : ConversionTable) : List Step → List Conversion
  | [] => []
  | .edit step :: rest => found target (table.after step) rest
  | .check source :: rest =>
      (table.resolve ⟨source, target⟩).toOption.toList ++ found target table rest

theorem check_found (table : ConversionTable) (cast : Cast) (source : ValueType) :
    after ⟨table, cast⟩ (.check source) =
      ⟨table, (table.resolve ⟨source, cast.target⟩).toOption.elim cast cast.bind⟩ := by
  unfold after ConversionTable.bindCast
  dsimp only
  cases table.resolve ⟨source, cast.target⟩ <;> rfl

/-- Binding again leaves no trace of an earlier binding, so the last conversion found decides. -/
theorem cast_run (table : ConversionTable) (cast : Cast) (steps : List Step) :
    (run ⟨table, cast⟩ steps).cast =
      (found cast.target table steps).getLast?.elim cast cast.bind := by
  rw [← Cast.foldl_bind]
  unfold run
  induction steps generalizing table cast with
  | nil => rfl
  | cons step rest ih =>
      rw [List.foldl_cons]
      cases step with
      | edit step => exact ih (table.after step) cast
      | check source =>
          rw [check_found, found, List.foldl_append]
          cases table.resolve ⟨source, cast.target⟩ with
          | error error => exact ih table cast
          | ok conversion => exact ih table (cast.bind conversion)

theorem target_run (table : ConversionTable) (cast : Cast) (steps : List Step) :
    (run ⟨table, cast⟩ steps).cast.target = cast.target := by
  rw [cast_run]
  cases (found cast.target table steps).getLast? <;> rfl

theorem conversion_run (table : ConversionTable) (cast : Cast) (steps : List Step) :
    (run ⟨table, cast⟩ steps).cast.conversion =
      (found cast.target table steps).getLast?.or cast.conversion := by
  rw [cast_run]
  cases (found cast.target table steps).getLast? <;> rfl

theorem nothing_found_iff (table : ConversionTable) (cast : Cast) (steps : List Step) :
    (run ⟨table, cast⟩ steps).cast.isBound = false ↔
      found cast.target table steps = [] ∧ cast.isBound = false := by
  unfold Cast.isBound
  rw [conversion_run]
  simp

/-- A check that succeeds leaves the cast with the only conversion of its pair. One that fails
leaves it with the last conversion that an earlier check of the run has found, unbound only if there
is none and the cast came unbound. -/
theorem last_success_stays_bound (table : ConversionTable) (cast : Cast) (steps : List Step)
    (source : ValueType) :
    let state := run ⟨table, cast⟩ steps
    let checked := state.after (.check source)
    (∀ bound, state.table.bindCast state.cast source = .ok bound →
      ∃ conversion, state.table.candidates ⟨source, cast.target⟩ = [conversion] ∧
        checked.cast = bound ∧ bound.conversion = some conversion ∧
          bound.slots = conversion.slots) ∧
      ∀ error, state.table.bindCast state.cast source = .error error →
        checked.cast = state.cast ∧
          checked.cast.conversion =
            (found cast.target table steps).getLast?.or cast.conversion ∧
          (checked.cast.isBound = false ↔
            found cast.target table steps = [] ∧ cast.isBound = false) := by
  intro state checked
  constructor
  · intro bound success
    obtain ⟨conversion, only, rfl⟩ :=
      (ConversionTable.bindCast_eq_ok_iff state.table state.cast bound source).1 success
    have sameTarget : state.cast.target = cast.target := target_run table cast steps
    rw [sameTarget] at only
    refine ⟨conversion, only, ?_, rfl, rfl⟩
    simp only [checked, after, success]
  · intro error failure
    have same : checked.cast = state.cast := by simp only [checked, after, failure]
    rw [same]
    exact ⟨rfl, conversion_run table cast steps, nothing_found_iff table cast steps⟩

def jsonToInt : Conversion := ⟨.json, .int, false, ⟨14⟩⟩

/-- Another conversion for the same pair. -/
def jsonToIntAgain : Conversion := ⟨.json, .int, true, ⟨15⟩⟩

/-- The pair resolves when the cast is checked and is ambiguous afterwards. -/
def madeAmbiguous : List Step :=
  [.edit (.register jsonToInt), .check .json, .edit (.register jsonToIntAgain)]

theorem ambiguity_leaves_binding :
    let state := run ⟨.empty, .unbound ⟨0⟩ .int .dummy⟩ madeAmbiguous
    state.table.bindCast state.cast .json = .error (.ambiguous 2) ∧
      found .int .empty madeAmbiguous = [jsonToInt] ∧
      (state.after (.check .json)).cast.conversion = some jsonToInt ∧
      (state.after (.check .json)).cast.isBound = true := by
  intro state
  have ambiguous : state.table.bindCast state.cast .json = .error (.ambiguous 2) := rfl
  obtain ⟨-, failed⟩ :=
    last_success_stays_bound .empty (.unbound ⟨0⟩ .int .dummy) madeAmbiguous .json
  obtain ⟨-, lastFound, unbound⟩ := failed _ ambiguous
  refine ⟨ambiguous, by decide, lastFound, ?_⟩
  rw [← Bool.not_eq_false, unbound]
  decide

theorem failure_does_not_unbind :
    ¬∀ (operand : ExprId) (target : ValueType) (span : Span) (steps : List Step)
        (source : ValueType) (error : ConversionError),
      let state := run ⟨.empty, .unbound operand target span⟩ steps
      state.table.bindCast state.cast source = .error error →
        (state.after (.check source)).cast.isBound = false := by
  intro unbinds
  have unbound := unbinds ⟨0⟩ .int .dummy madeAmbiguous .json (.ambiguous 2) rfl
  exact absurd unbound (by decide)

end Recheck

end NativeBinding
