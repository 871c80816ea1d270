import NativeBinding.Proofs.Session.Steps

/-!
# Registering a conversion again

A conversion that is registered already is refused, and the table stays as it was. Its routine is
bound all the same, so one name changes its meaning: casts bound under that name run the new routine
from then on, whichever conversion they are bound to. Nothing else ever tells the two sessions
apart.
-/

set_option autoImplicit false

namespace NativeBinding.Session

/-- The other session differs at most in the routine under this name. -/
def AgreesOff (name : Name) (session other : Session) : Prop :=
  ∃ routines : RoutineTable, other = { session with routines } ∧
    ∀ asked, asked ≠ name →
      routines.routines.find? asked = session.routines.routines.find? asked

section

variable {name : Name} {session other : Session}

theorem agrees_off_after (agrees : AgreesOff name session other) (step : Step) :
    AgreesOff name (session.after step) (other.after step) := by
  obtain ⟨routines, rfl, elsewhere⟩ := agrees
  cases step with
  | registerConversion conversion routine =>
      refine ⟨routines.register conversion.routine routine, rfl, ?_⟩
      intro asked different
      have registered : (session.after (.registerConversion conversion routine)).routines =
          session.routines.register conversion.routine routine := rfl
      rw [registered, RoutineTable.find?_register, RoutineTable.find?_register,
        elsewhere asked different]
  | _ => exact ⟨routines, rfl, elsewhere⟩

theorem agrees_off_run (agrees : AgreesOff name session other) (steps : List Step) :
    AgreesOff name (session.run steps) (other.run steps) := by
  unfold run
  induction steps generalizing session other with
  | nil => exact agrees
  | cons step rest ih => exact ih (agrees_off_after agrees step)

theorem same_checks (agrees : AgreesOff name session other) :
    other.conversions = session.conversions ∧
      ∀ units, other.checkConversions units = session.checkConversions units := by
  obtain ⟨routines, rfl, -⟩ := agrees
  exact ⟨rfl, fun _ => rfl⟩

theorem same_results (agrees : AgreesOff name session other) (world : World) {cast : Cast}
    (elsewhere : ∀ bound, cast.conversion = some bound → bound.routine ≠ name)
    (operand : Value) :
    other.convert world cast operand = session.convert world cast operand := by
  obtain ⟨routines, rfl, same⟩ := agrees
  unfold convert RoutineTable.convert
  cases bound : cast.conversion with
  | none => rfl
  | some conversion =>
      dsimp only
      rw [same conversion.routine (elsewhere conversion bound)]

end

theorem register_held {session : Session} {conversion : Conversion} (routine : Routine)
    (held : conversion ∈ session.conversions.candidates conversion.pair) :
    session.registerConversion conversion routine =
      ({ session with routines := session.routines.register conversion.routine routine },
        false) := by
  unfold registerConversion
  rw [ConversionTable.register_of_held held]

theorem agrees_off_register_held {session : Session} {conversion : Conversion}
    (routine : Routine) (held : conversion ∈ session.conversions.candidates conversion.pair) :
    AgreesOff conversion.routine session (session.registerConversion conversion routine).1 := by
  rw [register_held routine held]
  refine ⟨_, rfl, ?_⟩
  intro asked different
  rw [RoutineTable.find?_register, if_neg different]

/-- A conversion that is held is refused. However the session goes on, every pair resolves, every
check ends and every cast bound under another name converts as without the call. A cast bound under
the name of the refused conversion runs the routine that came with the call. If that is the routine
that stood under the name before, the session is the same. -/
theorem refused_conversion_rebinds_routine (session : Session) (conversion : Conversion)
    (routine : Routine) (held : conversion ∈ session.conversions.candidates conversion.pair) :
    let repeated := session.registerConversion conversion routine
    repeated.2 = false ∧
      (∀ later : List Step,
        (repeated.1.run later).conversions = (session.run later).conversions ∧
        (∀ units, (repeated.1.run later).checkConversions units =
          (session.run later).checkConversions units) ∧
        ∀ world cast operand,
          (∀ bound, cast.conversion = some bound → bound.routine ≠ conversion.routine) →
            (repeated.1.run later).convert world cast operand =
              (session.run later).convert world cast operand) ∧
      (∀ world cast operand bound, cast.conversion = some bound →
        bound.routine = conversion.routine → operand.type = bound.source →
          repeated.1.convert world cast operand =
            RoutineTable.results bound (routine world.heap operand)) ∧
      (session.routines.routines.find? conversion.routine = some routine →
        repeated.1 = session) := by
  intro repeated
  have refused : session.registerConversion conversion routine = _ := register_held routine held
  have left : repeated.1.routines = session.routines.register conversion.routine routine :=
    congrArg (routines ∘ Prod.fst) refused
  refine ⟨congrArg Prod.snd refused, ?_, ?_, ?_⟩
  · intro later
    have agrees := agrees_off_run (agrees_off_register_held routine held) later
    obtain ⟨sameTable, sameChecks⟩ := same_checks agrees
    refine ⟨sameTable, sameChecks, ?_⟩
    intro world cast operand elsewhere
    exact same_results agrees world elsewhere operand
  · intro world cast operand bound isBound sameName typed
    have found : repeated.1.routines.routines.find? bound.routine = some routine := by
      rw [left, sameName, RoutineTable.find?_register, if_pos rfl]
    exact repeated.1.routines.convert_bound world.heap isBound found typed
  · intro stands
    have same : session.routines.register conversion.routine routine = session.routines := by
      unfold RoutineTable.register
      rw [OrderedMap.insert_of_found stands]
    refine (congrArg Prod.fst refused).trans ?_
    rw [same]

/-- A routine that fails on every operand. -/
def failing : Routine := fun _ _ => .error "nope"

def readsInteger : Conversion := ⟨.json, .int, false, ⟨14⟩⟩

def writesInteger : Conversion := ⟨.int, .string, true, ⟨15⟩⟩

/-- Registers both conversions and checks a cast for the first one. -/
def registeredAndChecked : List Step :=
  [.registerConversion readsInteger Builtin.jsonToInt,
    .registerConversion writesInteger Builtin.intToString,
    .checkConversions [[⟨.unbound ⟨0⟩ .int .dummy, .json⟩]]]

theorem refused_failing_routine_runs :
    let session := (start { loadBuiltins := false } .silent).run registeredAndChecked
    let repeated := session.registerConversion readsInteger failing
    let read := (Cast.unbound ⟨0⟩ .int .dummy).bind readsInteger
    let write := (Cast.unbound ⟨1⟩ .string .dummy).bind writesInteger
    readsInteger ∈ session.conversions.candidates readsInteger.pair ∧
      repeated.2 = false ∧
      session.convert .initial read (.json (.int 7)) = .ok [.int 7, .nil] ∧
      repeated.1.convert .initial read (.json (.int 7)) = .ok [.int 0, .error "nope"] ∧
      repeated.1.convert .initial write (.int 7) = session.convert .initial write (.int 7) := by
  intro session repeated read write
  have held : readsInteger ∈ session.conversions.candidates readsInteger.pair := by decide
  obtain ⟨refused, later, rebound, -⟩ :=
    refused_conversion_rebinds_routine session readsInteger failing held
  refine ⟨held, refused, rfl, ?_, ?_⟩
  · exact rebound .initial read (.json (.int 7)) readsInteger rfl rfl rfl
  · obtain ⟨-, -, sameResults⟩ := later []
    refine sameResults .initial write (.int 7) ?_
    intro bound isBound
    cases isBound
    decide

/-- Whether the step registers, checks or runs conversions and does nothing else. -/
def Step.onConversions : Step → Bool
  | registerConversion _ _ | checkConversions _ | convert _ _ _ => true
  | _ => false

/-- Refused registrations are not without effect: registering a conversion of the table once more
changes what a cast gives that an earlier check has bound. -/
theorem refused_conversion_changes_results :
    ¬∀ (settings : Settings) (sink : Sink) (steps : List Step),
      (∀ step ∈ steps, step.onConversions = true) →
        let session := (start settings sink).run steps
        ∀ (conversion : Conversion) (routine : Routine),
          conversion ∈ session.conversions.candidates conversion.pair →
            let repeated := session.registerConversion conversion routine
            repeated.2 = false ∧
              (∀ pair, repeated.1.conversions.resolve pair = session.conversions.resolve pair) ∧
              (∀ units, repeated.1.checkConversions units = session.checkConversions units) ∧
              ∀ world cast operand,
                repeated.1.convert world cast operand = session.convert world cast operand := by
  intro withoutEffect
  have onConversions : ∀ step ∈ registeredAndChecked, step.onConversions = true := by
    simp [registeredAndChecked, Step.onConversions]
  obtain ⟨-, -, -, sameResults⟩ := withoutEffect { loadBuiltins := false } .silent
    registeredAndChecked onConversions readsInteger failing (by decide)
  have same : Except.ok [Value.int 0, Value.error "nope"] = Except.ok [Value.int 7, Value.nil] :=
    sameResults .initial ((Cast.unbound ⟨0⟩ .int .dummy).bind readsInteger) (.json (.int 7))
  simp at same

end NativeBinding.Session
