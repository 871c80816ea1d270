import NativeBinding.Proofs.Conversion.Batch
import NativeBinding.Proofs.Conversion.Steps
import NativeBinding.Proofs.Session.Steps

/-!
# A checked conversion always runs

Conversions come into a session together with their routines, and a routine may be replaced but is
never taken out. So every conversion that the table has held can still be run after it has left the
table, and a cast that a check has bound carries one for the type that its operand was checked with.
-/

set_option autoImplicit false

namespace NativeBinding

namespace Session

/-- What a session comes to as far as its conversions go: they are registered with their routines or
taken out of the table, and whatever else happens leaves table and routines alone. -/
inductive Evolves (first : Session) : Session → Prop where
  | same : Evolves first first
  | register {session : Session} (earlier : Evolves first session) (conversion : Conversion)
      (routine : Routine) : Evolves first (session.registerConversion conversion routine).1
  | unregister {session : Session} (earlier : Evolves first session) (conversion : Conversion) :
      Evolves first
        { session with conversions := (session.conversions.unregister conversion).1 }
  | other {session next : Session} (earlier : Evolves first session)
      (sameTable : next.conversions = session.conversions)
      (sameRoutines : next.routines = session.routines) : Evolves first next

theorem evolves_after {first session : Session} (earlier : first.Evolves session) (step : Step) :
    first.Evolves (session.after step) := by
  cases step with
  | registerConversion conversion routine => exact earlier.register conversion routine
  | unregisterConversion conversion => exact earlier.unregister conversion
  | _ => exact earlier.other rfl rfl

theorem evolves_run (session : Session) (steps : List Step) :
    session.Evolves (session.run steps) := by
  unfold run
  induction steps using List.reverseRecOn with
  | nil => exact .same
  | append_singleton steps step ih =>
      rw [List.foldl_append]
      exact evolves_after ih step

theorem routine_stays {first session : Session} (later : first.Evolves session) {name : Name}
    (there : (first.routines.routines.find? name).isSome) :
    (session.routines.routines.find? name).isSome := by
  induction later with
  | same => exact there
  | @register session earlier conversion routine ih =>
      have lookup := session.routines.find?_register conversion.routine name routine
      change ((session.routines.register conversion.routine routine).routines.find? name).isSome
      rw [lookup]
      split
      · rfl
      · exact ih
  | unregister earlier conversion ih => exact ih
  | other earlier sameTable sameRoutines ih =>
      rw [sameRoutines]
      exact ih

/-- Every conversion of the table is held under its own pair and has a routine. -/
structure Backed (session : Session) : Prop where
  keyed : session.conversions.Keyed
  routines : ∀ pair, ∀ conversion ∈ session.conversions.candidates pair,
    (session.routines.routines.find? conversion.routine).isSome

theorem backed_bare (settings : Settings) (sink : Sink) : (bare settings sink).Backed where
  keyed := ConversionTable.keyed_empty
  routines := by
    intro pair conversion held
    cases held

theorem backed_register {session : Session} (backed : session.Backed) (conversion : Conversion)
    (routine : Routine) : (session.registerConversion conversion routine).1.Backed := by
  refine ⟨ConversionTable.keyed_after backed.keyed (.register conversion), ?_⟩
  intro pair held member
  have registered : session.Evolves (session.registerConversion conversion routine).1 :=
    Evolves.same.register conversion routine
  have source : held ∈ (session.conversions.after (.register conversion)).candidates pair := member
  rcases ConversionTable.held_after source with earlier | ⟨new, -⟩
  · exact routine_stays registered (backed.routines pair held earlier)
  · cases new
    have lookup := session.routines.find?_register conversion.routine conversion.routine routine
    change ((session.routines.register conversion.routine routine).routines.find?
      conversion.routine).isSome
    rw [lookup, if_pos rfl]
    rfl

theorem backed_unregister {session : Session} (backed : session.Backed)
    (conversion : Conversion) :
    { session with conversions := (session.conversions.unregister conversion).1 }.Backed := by
  refine ⟨ConversionTable.keyed_after backed.keyed (.unregister conversion), ?_⟩
  intro pair held member
  have source : held ∈ (session.conversions.after (.unregister conversion)).candidates pair :=
    member
  rcases ConversionTable.held_after source with earlier | ⟨new, -⟩
  · exact backed.routines pair held earlier
  · cases new

theorem backed_evolves {first session : Session} (backed : first.Backed)
    (later : first.Evolves session) : session.Backed := by
  induction later with
  | same => exact backed
  | register earlier conversion routine ih => exact backed_register ih conversion routine
  | unregister earlier conversion ih => exact backed_unregister ih conversion
  | other earlier sameTable sameRoutines ih =>
      refine ⟨?_, ?_⟩
      · rw [sameTable]
        exact ih.keyed
      · rw [sameTable, sameRoutines]
        exact ih.routines

theorem backed_start (settings : Settings) (sink : Sink) : (start settings sink).Backed := by
  obtain ⟨steps, started, -⟩ := start_run settings sink
  rw [started]
  exact backed_evolves (backed_bare settings sink) (evolves_run _ steps)

/-- A successful check has left the cast bound for operands of this type. The cast was checked on
its own, by a checker that was silent about it, or at a place among units checked together. -/
inductive Binds (session : Session) (source : ValueType) : Cast → Prop where
  | alone {cast bound : Cast} (success : session.conversions.bindCast cast source = .ok bound) :
      Binds session source bound
  | byChecker {checker : Checker} {spell : Spelling} {site : Site} (typed : site.source = source)
      (silent : (checker.check session.conversions spell site).reported = none) :
      Binds session source (checker.check session.conversions spell site).site.cast
  | inUnits {units : List (List Site)} {place : Nat} {site checked : Site}
      (typed : site.source = source) (given : units.flatten[place]? = some site)
      (success : ∃ bound, session.conversions.bindCast site.cast site.source = .ok bound)
      (left : (session.checkConversions units).2.flatten[place]? = some checked) :
      Binds session source checked.cast

theorem checked_place (session : Session) (units : List (List Site)) (place : Nat) :
    (session.checkConversions units).2.flatten[place]? =
      units.flatten[place]?.map session.conversions.settle := by
  have settled : (session.checkConversions units).2 =
      units.map (List.map session.conversions.settle) :=
    check_units_settles session.conversions session.names.text session.settings.limits units
  rw [settled, ← List.map_flatten, List.getElem?_map]

/-- The cast is bound to a conversion that the table holds for the types of operand and target. -/
def BoundFromTable (session : Session) (source : ValueType) (bound : Cast) : Prop :=
  ∃ (before : Cast) (conversion : Conversion),
    conversion ∈ session.conversions.candidates ⟨source, before.target⟩ ∧
      bound = before.bind conversion

theorem bound_from_check {session : Session} {source : ValueType} {cast bound : Cast}
    (success : session.conversions.bindCast cast source = .ok bound) :
    session.BoundFromTable source bound := by
  obtain ⟨conversion, only, same⟩ :=
    (ConversionTable.bindCast_eq_ok_iff session.conversions cast bound source).1 success
  refine ⟨cast, conversion, ?_, same⟩
  rw [only]
  exact List.mem_singleton_self conversion

theorem bound_from_table {session : Session} {source : ValueType} {bound : Cast}
    (binds : session.Binds source bound) : session.BoundFromTable source bound := by
  cases binds with
  | alone success => exact bound_from_check success
  | @byChecker checker spell site typed silent =>
      obtain ⟨bound, success⟩ :=
        (Checker.check_silent_iff session.conversions spell checker site).1 silent
      rw [Checker.check_settles, ConversionTable.settle_bound success]
      rw [typed] at success
      exact bound_from_check success
  | @inUnits units place site checked typed given success left =>
      obtain ⟨bound, success⟩ := success
      rw [checked_place, given] at left
      cases left
      rw [ConversionTable.settle_bound success]
      rw [typed] at success
      exact bound_from_check success

/-- Whatever has been registered and taken out since its last check, a cast that the check bound
runs on every operand of the type that it was checked with. It gives one value for each of its
slots, or else it is bound to a safe conversion and the routine that is registered now has
failed. -/
theorem checked_cast_runs {settings : Settings} {sink : Sink} {checked session : Session}
    (started : (start settings sink).Evolves checked) {source : ValueType} {cast : Cast}
    (binds : checked.Binds source cast) (later : checked.Evolves session) (world : World)
    {operand : Value} (typed : operand.type = source) :
    (∃ values, session.convert world cast operand = .ok values ∧
      values.length = cast.slots.length) ∨
      ∃ conversion routine message, cast.conversion = some conversion ∧ conversion.safe = true ∧
        session.routines.routines.find? conversion.routine = some routine ∧
        routine world.heap operand = .error message ∧
        session.convert world cast operand = .error (.safeFailed message) := by
  have backed := backed_evolves (backed_start settings sink) started
  obtain ⟨before, conversion, held, rfl⟩ := bound_from_table binds
  have own : conversion.pair = ⟨source, before.target⟩ := backed.keyed _ conversion held
  have sameSource : operand.type = conversion.source := by
    rw [typed]
    exact (congrArg TypePair.source own).symm
  have there := routine_stays later (backed.routines _ conversion held)
  obtain ⟨routine, found⟩ := Option.isSome_iff_exists.1 there
  have runs : session.convert world (before.bind conversion) operand =
      RoutineTable.results conversion (routine world.heap operand) :=
    session.routines.convert_bound world.heap rfl found sameSource
  rw [runs]
  rcases RoutineTable.results_cases conversion (routine world.heap operand) with
    ⟨values, answer, count⟩ | ⟨message, safe, failed, answer⟩
  · exact .inl ⟨values, answer, count⟩
  · exact .inr ⟨conversion, routine, message, rfl, safe, found, failed, answer⟩

def fails : Routine := fun _ _ => .error "no"

/-- A conversion that may fail and a safe one, each with its routine. -/
def readAndWrite : List Step :=
  [.registerConversion ⟨.json, .int, false, ⟨14⟩⟩ Builtin.jsonToInt,
    .registerConversion ⟨.int, .string, true, ⟨15⟩⟩ Builtin.intToString]

/-- A unit without sites before the unit with the cast. -/
def writtenApart : List (List Site) := [[], [⟨.unbound ⟨1⟩ .string .dummy, .int⟩]]

/-- Takes both conversions out and replaces the routine of the safe one by another conversion's. -/
def takenOut : List Step :=
  [.unregisterConversion ⟨.json, .int, false, ⟨14⟩⟩,
    .unregisterConversion ⟨.int, .string, true, ⟨15⟩⟩,
    .registerConversion ⟨.int, .map, true, ⟨15⟩⟩ fails]

theorem conversions_run_after_removal :
    let checked := (start { loadBuiltins := false } .silent).run readAndWrite
    let session := checked.run takenOut
    let read := (Cast.unbound ⟨0⟩ .int .dummy).bind ⟨.json, .int, false, ⟨14⟩⟩
    let write := (Cast.unbound ⟨1⟩ .string .dummy).bind ⟨.int, .string, true, ⟨15⟩⟩
    checked.Binds .json read ∧ checked.Binds .int write ∧
      session.conversions.size = 1 ∧
      (∃ values, session.convert .initial read (.json (.int 7)) = .ok values ∧
        values.length = 2) ∧
      ∃ routine message, session.routines.routines.find? ⟨15⟩ = some routine ∧
        routine World.initial.heap (.int 7) = .error message ∧
        session.convert .initial write (.int 7) = .error (.safeFailed message) := by
  intro checked session read write
  have started : (start { loadBuiltins := false } .silent).Evolves checked := evolves_run _ _
  have later : checked.Evolves session := evolves_run _ _
  have readBound : checked.Binds .json read :=
    .alone (show checked.conversions.bindCast (.unbound ⟨0⟩ .int .dummy) .json = .ok read from rfl)
  have writeBound : checked.Binds .int write :=
    .inUnits rfl (show writtenApart.flatten[0]? = some _ from rfl) ⟨write, rfl⟩
      (show (checked.checkConversions writtenApart).2.flatten[0]? = some ⟨write, .int⟩ from rfl)
  have readRuns := checked_cast_runs started readBound later .initial
    (show (Value.json (.int 7)).type = .json from rfl)
  have writeRuns := checked_cast_runs started writeBound later .initial
    (show (Value.int 7).type = .int from rfl)
  refine ⟨readBound, writeBound, by decide, ?_, ?_⟩
  · rcases readRuns with answered | ⟨conversion, -, -, bound, safe, -⟩
    · exact answered
    · cases bound
      cases safe
  · have refused : session.convert .initial write (.int 7) = .error (.safeFailed "no") := rfl
    rcases writeRuns with ⟨values, answered, -⟩ | ⟨conversion, routine, message, bound, -, rest⟩
    · rw [refused] at answered
      cases answered
    · cases bound
      exact ⟨routine, message, rest⟩

end Session

end NativeBinding
