import NativeBinding.Proofs.Conversion.IntegerTexts
import NativeBinding.Proofs.Conversion.TypedResults
import NativeBinding.Proofs.Session.Conversions
import NativeBinding.Proofs.Session.OnlyBuiltins

/-!
# The builtin conversions keep their promises

A host may register whatever it likes next to the builtin conversions. As long as it takes none of
their names for a routine of its own and leaves their pairs of types alone, each of them stays the
only conversion of its pair, and its routine stays behind it. The routines fail on operands that
they do not expect, but a cast that was checked passes them no such operand. So a safe conversion
never fails, and one that may fail answers with an error in its place.
-/

set_option autoImplicit false

namespace NativeBinding

namespace ConversionTable

variable {table : ConversionTable} {conversion : Conversion} {pair : TypePair}

theorem candidates_not_added (notAdded : (table.register conversion).2 = true →
    pair ≠ conversion.pair) :
    (table.register conversion).1.candidates pair = table.candidates pair := by
  rw [candidates_register]
  apply if_neg
  intro added
  obtain ⟨rfl, new⟩ := added
  exact notAdded ((register_new_iff table conversion).2 new) rfl

theorem candidates_not_removed (notRemoved : (table.unregister conversion).2 = true →
    pair ≠ conversion.pair) :
    (table.unregister conversion).1.candidates pair = table.candidates pair := by
  rw [candidates_unregister]
  split
  · next here =>
      subst here
      rw [List.filter_eq_self]
      intro other held
      apply decide_eq_true
      intro same
      rw [same] at held
      exact notRemoved ((unregister_held_iff table conversion).2 held) rfl
  · rfl

end ConversionTable

namespace Builtin

def intOfJson : Entry := ⟨.json, .int, false, "json_to_int", jsonToInt⟩

def textOfJson : Entry := ⟨.json, .string, false, "json_to_string", jsonToString⟩

theorem intOfJson_listed : intOfJson ∈ conversions := by
  simp [conversions, intOfJson]

theorem textOfJson_listed : textOfJson ∈ conversions := by
  simp [conversions, textOfJson]

/-- A document of one shape is read as what it holds, and any other is refused. -/
def Reads {α : Type} (shape : α → Json) (make : α → Value) (refusal : String) (document : Json)
    (outcome : Except String Value) : Prop :=
  (∃ held, document = shape held ∧ outcome = .ok (make held)) ∨
    (∀ held, document ≠ shape held) ∧ outcome = .error refusal

theorem jsonToInt_reads (heap : Heap) (document : Json) :
    Reads .int .int ("cannot convert json " ++ document.kind ++ " to int") document
      (jsonToInt heap (.json document)) := by
  cases document with
  | int n => exact .inl ⟨n, rfl, rfl⟩
  | _ =>
      refine .inr ⟨?_, rfl⟩
      intro n same
      cases same

theorem jsonToString_reads (heap : Heap) (document : Json) :
    Reads .string .string ("cannot convert json " ++ document.kind ++ " to string") document
      (jsonToString heap (.json document)) := by
  cases document with
  | string text => exact .inl ⟨text, rfl, rfl⟩
  | _ =>
      refine .inr ⟨?_, rfl⟩
      intro text same
      cases same

/-- Behind a conversion that may fail, a refusal is told by the zero of the target and the error. -/
theorem results_of_reads {α : Type} {shape : α → Json} {make : α → Value} {refusal : String}
    {document : Json} {outcome : Except String Value}
    (reads : Reads shape make refusal document outcome)
    (shapes : Function.Injective shape) (makes : Function.Injective make)
    {conversion : Conversion} (fallible : conversion.safe = false) :
    (∀ held, RoutineTable.results conversion outcome = .ok [make held, .nil] ↔
      document = shape held) ∧
    ((∀ held, document ≠ shape held) → RoutineTable.results conversion outcome =
      .ok [.zero conversion.target, .error refusal]) := by
  rcases reads with ⟨read, rfl, rfl⟩ | ⟨other, rfl⟩
  · have answer : RoutineTable.results conversion (.ok (make read)) =
        .ok [make read, .nil] := by
      simp only [RoutineTable.results, fallible, Bool.false_eq_true, if_false]
    constructor
    · intro held
      rw [answer]
      constructor
      · intro same
        simp only [Except.ok.injEq, List.cons.injEq, and_true] at same
        rw [makes same]
      · intro same
        rw [shapes same]
    · intro other
      exact absurd rfl (other read)
  · have answer : RoutineTable.results conversion (.error refusal) =
        .ok [.zero conversion.target, .error refusal] := by
      simp only [RoutineTable.results, fallible, Bool.false_eq_true, if_false]
    constructor
    · intro held
      rw [answer]
      constructor
      · intro same
        simp only [Except.ok.injEq, List.cons.injEq, reduceCtorEq, false_and, and_false] at same
      · intro same
        exact absurd same (other held)
    · intro _
      exact answer

/-- The routine gives a value of the target, or it fails and may do so. -/
def Entry.Keeps (entry : Entry) (outcome : Except String Value) : Prop :=
  (∃ value, outcome = .ok value ∧ value.conformsTo entry.target = true) ∨
    ∃ message, outcome = .error message ∧ entry.safe = false

/-- The branch of a routine for operands of other types is out of reach. -/
theorem entry_keeps {entry : Entry} (builtin : entry ∈ conversions) (heap : Heap) {operand : Value}
    (typed : operand.type = entry.source) : entry.Keeps (entry.routine heap operand) := by
  simp only [conversions, List.mem_cons, List.not_mem_nil, or_false] at builtin
  rcases builtin with rfl | rfl | rfl | rfl | rfl | rfl | rfl
  · cases operand with
    | json document =>
        rcases jsonToInt_reads heap document with ⟨n, -, answer⟩ | ⟨-, answer⟩
        · exact .inl ⟨_, answer, rfl⟩
        · exact .inr ⟨_, answer, rfl⟩
    | _ => cases typed
  · cases operand with
    | json document =>
        rcases jsonToString_reads heap document with ⟨text, -, answer⟩ | ⟨-, answer⟩
        · exact .inl ⟨_, answer, rfl⟩
        · exact .inr ⟨_, answer, rfl⟩
    | _ => cases typed
  · cases operand with
    | string text =>
        have answer := stringToInt_string heap text
        cases read : Decimal.read? text with
        | none => exact .inr ⟨_, answer.trans (by rw [read]), rfl⟩
        | some n => exact .inl ⟨.int n, answer.trans (by rw [read]), rfl⟩
    | _ => cases typed
  · cases operand with
    | int n => exact .inl ⟨_, rfl, rfl⟩
    | _ => cases typed
  · cases operand with
    | int n => exact .inl ⟨_, rfl, rfl⟩
    | _ => cases typed
  · cases operand with
    | float x => exact .inl ⟨_, rfl, rfl⟩
    | _ => cases typed
  · cases operand with
    | boolean value => exact .inl ⟨_, rfl, rfl⟩
    | _ => cases typed

theorem targets_have_zeros : ∀ entry ∈ conversions, entry.target.lacksZero = false := by decide

theorem results_conform {entry : Entry} (builtin : entry ∈ conversions) (routine : Name)
    {outcome : Except String Value} (keeps : entry.Keeps outcome) :
    ∃ values, RoutineTable.results (entry.conversion routine) outcome = .ok values ∧
      Conform ((entry.conversion routine).slots.map Slot.type) values := by
  rcases keeps with ⟨value, rfl, conforms⟩ | ⟨message, rfl, fallible⟩
  · have runs := RoutineTable.results_eq_ok_iff (entry.conversion routine) (.ok value)
    refine ⟨_, rfl, ?_⟩
    exact Conversion.conform_succeeded ((runs _).1 rfl) conforms
  · have yields : (entry.conversion routine).Yields (.error message)
        [.zero entry.target, .error message] := .failed fallible message
    refine ⟨_, (RoutineTable.results_eq_ok_iff ..).2 yields, ?_⟩
    exact (Conversion.conform_failed_iff yields).2 (targets_have_zeros entry builtin)

end Builtin

namespace Session

open Builtin (Entry)

/-- What a session comes to while no routine is registered under the name of a builtin one, and no
conversion is added to the pair of a builtin one or removed from it. Conversions can be registered
with their routines or in the table alone, and whatever else happens leaves table and routines
alone. -/
inductive SparesBuiltins (first : Session) : Session → Prop where
  | same : SparesBuiltins first first
  | register {session : Session} (earlier : SparesBuiltins first session)
      (conversion : Conversion) (routine : Routine)
      (ownName : ∀ entry ∈ Builtin.conversions, first.nameOf entry.text ≠ conversion.routine)
      (notAdded : (session.registerConversion conversion routine).2 = true →
        ∀ entry ∈ Builtin.conversions, entry.pair ≠ conversion.pair) :
      SparesBuiltins first (session.registerConversion conversion routine).1
  | registerAlone {session : Session} (earlier : SparesBuiltins first session)
      (conversion : Conversion)
      (notAdded : (session.conversions.register conversion).2 = true →
        ∀ entry ∈ Builtin.conversions, entry.pair ≠ conversion.pair) :
      SparesBuiltins first
        { session with conversions := (session.conversions.register conversion).1 }
  | unregister {session : Session} (earlier : SparesBuiltins first session)
      (conversion : Conversion)
      (notRemoved : (session.conversions.unregister conversion).2 = true →
        ∀ entry ∈ Builtin.conversions, entry.pair ≠ conversion.pair) :
      SparesBuiltins first
        { session with conversions := (session.conversions.unregister conversion).1 }
  | other {session next : Session} (earlier : SparesBuiltins first session)
      (sameTable : next.conversions = session.conversions)
      (sameRoutines : next.routines = session.routines) : SparesBuiltins first next

/-- The step registers no routine under the name of a builtin one, and neither registers nor takes
out a conversion for the pair of a builtin one. -/
def Step.SparesBuiltins (name : String → Name) : Step → Prop
  | .registerConversion conversion _ => ∀ entry ∈ Builtin.conversions,
      name entry.text ≠ conversion.routine ∧ entry.pair ≠ conversion.pair
  | .unregisterConversion conversion => ∀ entry ∈ Builtin.conversions,
      entry.pair ≠ conversion.pair
  | _ => True

section

variable {first session : Session} {entry : Entry}

theorem spares_builtins_after (earlier : first.SparesBuiltins session) {step : Step}
    (spares : step.SparesBuiltins first.nameOf) : first.SparesBuiltins (session.after step) := by
  cases step with
  | registerConversion conversion routine =>
      exact earlier.register conversion routine (fun entry builtin => (spares entry builtin).1)
        fun _ entry builtin => (spares entry builtin).2
  | unregisterConversion conversion => exact earlier.unregister conversion fun _ => spares
  | _ => exact earlier.other rfl rfl

theorem spares_builtins_run (earlier : first.SparesBuiltins session) {steps : List Step}
    (spare : ∀ step ∈ steps, step.SparesBuiltins first.nameOf) :
    first.SparesBuiltins (session.run steps) := by
  unfold run
  induction steps generalizing session with
  | nil => exact earlier
  | cons step rest ih =>
      rw [List.forall_mem_cons] at spare
      exact ih (spares_builtins_after earlier spare.1) spare.2

/-- Nothing that spares the builtins takes the place of one. -/
theorem holds_of_spares (spares : first.SparesBuiltins session)
    (builtin : entry ∈ Builtin.conversions)
    (holds : first.Holds entry (first.nameOf entry.text)) :
    session.Holds entry (first.nameOf entry.text) := by
  induction spares with
  | same => exact holds
  | @register session earlier conversion routine ownName notAdded ih =>
      constructor
      · exact (ConversionTable.candidates_not_added fun added =>
          notAdded added entry builtin).trans ih.alone
      · refine (RoutineTable.find?_register ..).trans ?_
        rw [if_neg (ownName entry builtin)]
        exact ih.found
  | @registerAlone session earlier conversion notAdded ih =>
      exact ⟨(ConversionTable.candidates_not_added fun added =>
        notAdded added entry builtin).trans ih.alone, ih.found⟩
  | @unregister session earlier conversion notRemoved ih =>
      exact ⟨(ConversionTable.candidates_not_removed fun removed =>
        notRemoved removed entry builtin).trans ih.alone, ih.found⟩
  | other earlier sameTable sameRoutines ih =>
      constructor
      · rw [sameTable]
        exact ih.alone
      · rw [sameRoutines]
        exact ih.found

variable {cast bound : Cast}

theorem left_bound {source : ValueType}
    (success : session.conversions.bindCast cast source = .ok bound)
    {units : List (List Site)} {place : Nat}
    (given : units.flatten[place]? = some ⟨cast, source⟩) :
    (session.checkConversions units).2.flatten[place]? = some ⟨bound, source⟩ := by
  rw [checked_place, given, Option.map_some, ConversionTable.settle_bound success]

theorem bound_of_held {name : Name} (holds : session.Holds entry name)
    (target : cast.target = entry.target)
    (success : session.conversions.bindCast cast entry.source = .ok bound) :
    bound = cast.bind (entry.conversion name) := by
  rw [checked_of_holds holds target] at success
  exact (Except.ok.inj success).symm

theorem convert_held {name : Name} (holds : session.Holds entry name)
    (found : bound.conversion = some (entry.conversion name)) (world : World) {operand : Value}
    (typed : operand.type = entry.source) :
    session.convert world bound operand =
      RoutineTable.results (entry.conversion name) (entry.routine world.heap operand) :=
  session.routines.convert_bound world.heap found holds.found typed

/-- A routine that could fail on an operand is not passed it behind a safe builtin conversion. -/
theorem never_safe_failed {name : Name} (holds : session.Holds entry name)
    (builtin : entry ∈ Builtin.conversions)
    (found : bound.conversion = some (entry.conversion name)) (world : World) (operand : Value)
    (message : String) : session.convert world bound operand ≠ .error (.safeFailed message) := by
  intro failed
  rcases session.routines.convert_cases world.heap bound operand with
    ⟨conversion, -, same, -, typed, -⟩ | ⟨-, stuck⟩ |
      ⟨conversion, -, -, stuck⟩ | ⟨conversion, -, -, stuck⟩
  · rw [found] at same
    cases same
    rw [convert_held holds found world typed] at failed
    obtain ⟨values, answer, -⟩ :=
      Builtin.results_conform builtin name (Builtin.entry_keeps builtin world.heap typed)
    rw [answer] at failed
    cases failed
  all_goals
    rw [convert, stuck] at failed
    cases failed

end

/-- Whatever else has been registered, by the time of a check and by the time of a run: a cast for a
builtin conversion is bound, also among other sites, and runs on every operand of its source, with
results that conform to its slots; no operand makes a safe one fail. A document is converted to a
number or a text exactly if it is one, and otherwise answered with zero or the empty text and an
error that names its kind. -/
theorem builtin_conversions_kept {settings : Settings} (loads : settings.loadBuiltins = true)
    {sink : Sink} {checked session : Session}
    (spared : (start settings sink).SparesBuiltins checked)
    (stillSpared : (start settings sink).SparesBuiltins session) :
    (∀ entry ∈ Builtin.conversions, ∀ cast : Cast, cast.target = entry.target →
      ∃ bound, checked.conversions.bindCast cast entry.source = .ok bound ∧
        (∀ (units : List (List Site)) (place : Nat),
          units.flatten[place]? = some ⟨cast, entry.source⟩ →
            (checked.checkConversions units).2.flatten[place]? = some ⟨bound, entry.source⟩) ∧
        ∀ world operand,
          (operand.type = entry.source →
            ∃ values, session.convert world bound operand = .ok values ∧
              Conform bound.types values) ∧
          ∀ message, session.convert world bound operand ≠ .error (.safeFailed message)) ∧
    (∀ cast bound : Cast, cast.target = .int →
      checked.conversions.bindCast cast .json = .ok bound → ∀ world document,
        (∀ n, session.convert world bound (.json document) = .ok [.int n, .nil] ↔
          document = .int n) ∧
        ((∀ n, document ≠ .int n) → session.convert world bound (.json document) =
          .ok [.int 0, .error ("cannot convert json " ++ document.kind ++ " to int")])) ∧
    ∀ cast bound : Cast, cast.target = .string →
      checked.conversions.bindCast cast .json = .ok bound → ∀ world document,
        (∀ text, session.convert world bound (.json document) = .ok [.string text, .nil] ↔
          document = .string text) ∧
        ((∀ text, document ≠ .string text) → session.convert world bound (.json document) =
          .ok [.string "", .error ("cannot convert json " ++ document.kind ++ " to string")]) := by
  have held (entry : Entry) (builtin : entry ∈ Builtin.conversions) :=
    holds_of_spares spared builtin (builtin_held_at_start loads sink builtin)
  have stillHeld (entry : Entry) (builtin : entry ∈ Builtin.conversions) :=
    holds_of_spares stillSpared builtin (builtin_held_at_start loads sink builtin)
  refine ⟨?_, ?_, ?_⟩
  · intro entry builtin cast target
    have success := checked_of_holds (held entry builtin) target
    refine ⟨_, success, fun units place => left_bound success, ?_⟩
    intro world operand
    constructor
    · intro typed
      rw [convert_held (stillHeld entry builtin) rfl world typed]
      exact Builtin.results_conform builtin _ (Builtin.entry_keeps builtin world.heap typed)
    · exact never_safe_failed (stillHeld entry builtin) builtin rfl world operand
  · intro cast bound target success world document
    obtain rfl := bound_of_held (held _ Builtin.intOfJson_listed) target success
    rw [convert_held (stillHeld _ Builtin.intOfJson_listed) rfl world rfl]
    exact Builtin.results_of_reads (Builtin.jsonToInt_reads world.heap document)
      (fun _ _ => Json.int.inj) (fun _ _ => Value.int.inj) rfl
  · intro cast bound target success world document
    obtain rfl := bound_of_held (held _ Builtin.textOfJson_listed) target success
    rw [convert_held (stillHeld _ Builtin.textOfJson_listed) rfl world rfl]
    exact Builtin.results_of_reads (Builtin.jsonToString_reads world.heap document)
      (fun _ _ => Json.string.inj) (fun _ _ => Value.string.inj) rfl

/-- Conversions besides the builtin ones, one of them taken out again, with routines that fail. -/
def besideBuiltins : List Step :=
  [.registerConversion ⟨.json, .map, false, ⟨40⟩⟩ fails,
    .intern "json_to_map",
    .registerConversion ⟨.blob, .string, true, ⟨41⟩⟩ fails,
    .unregisterConversion ⟨.json, .map, false, ⟨40⟩⟩,
    .rebuildScope]

theorem builtins_among_other_conversions :
    let started := start {} .silent
    let session := started.run besideBuiltins
    started.SparesBuiltins session ∧
      (∃ bound, session.conversions.bindCast (.unbound ⟨0⟩ .string .dummy) .int = .ok bound ∧
        ∃ values, session.convert .initial bound (.int 7) = .ok values ∧
          Conform bound.types values) ∧
      ∃ bound, session.conversions.bindCast (.unbound ⟨0⟩ .int .dummy) .json = .ok bound ∧
        session.convert .initial bound (.json (.int 42)) = .ok [.int 42, .nil] ∧
        session.convert .initial bound (.json (.array [])) =
          .ok [.int 0, .error "cannot convert json array to int"] := by
  intro started session
  have loads : ({} : Settings).loadBuiltins = true := rfl
  have names : ∀ entry ∈ Builtin.conversions,
      started.nameOf entry.text ≠ ⟨40⟩ ∧ started.nameOf entry.text ≠ ⟨41⟩ := by decide +kernel
  have pairs : ∀ entry ∈ Builtin.conversions,
      entry.pair ≠ ⟨.json, .map⟩ ∧ entry.pair ≠ ⟨.blob, .string⟩ := by decide
  have spare : ∀ step ∈ besideBuiltins, step.SparesBuiltins started.nameOf := by
    simp only [besideBuiltins, List.forall_mem_cons, List.not_mem_nil, false_imp_iff, implies_true,
      and_true]
    exact ⟨fun entry builtin => ⟨(names entry builtin).1, (pairs entry builtin).1⟩, trivial,
      fun entry builtin => ⟨(names entry builtin).2, (pairs entry builtin).2⟩,
      fun entry builtin => (pairs entry builtin).1, trivial⟩
  have spares : started.SparesBuiltins session := spares_builtins_run .same spare
  obtain ⟨kept, readsInt, -⟩ := builtin_conversions_kept loads spares spares
  obtain ⟨bound, checked, -, runs⟩ := kept Builtin.textOfInt Builtin.textOfInt_listed
    (.unbound ⟨0⟩ .string .dummy) rfl
  obtain ⟨reading, readingChecked, -⟩ := kept Builtin.intOfJson Builtin.intOfJson_listed
    (.unbound ⟨0⟩ .int .dummy) rfl
  refine ⟨spares, ⟨bound, checked, (runs .initial (.int 7)).1 rfl⟩, reading, readingChecked, ?_, ?_⟩
  · exact ((readsInt _ reading rfl readingChecked .initial (.int 42)).1 42).2 rfl
  · refine (readsInt _ reading rfl readingChecked .initial (.array [])).2 ?_
    intro n same
    cases same

end Session

end NativeBinding
