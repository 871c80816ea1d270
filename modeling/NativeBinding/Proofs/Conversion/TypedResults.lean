import NativeBinding.Proofs.Conversion.Slots
import NativeBinding.Proofs.Host.Dispatch

/-!
# The types of conversion results

Where routines keep to the targets of their conversions, the results of a checked cast conform to
its slots. The zero of the target fills in for a value that could not be converted, and it conforms
as well, but for the types that have no zero: there nil fills in, which a slot of such a type does
not take.
-/

set_option autoImplicit false

namespace NativeBinding

/-- Types without a value that could fill in for a missing one: no value has the type `xml`, and a
struct or connector is an instance that a host has to make. -/
def ValueType.lacksZero : ValueType → Bool
  | .xml | .struct _ | .connector _ => true
  | _ => false

theorem Value.zero_conforms_iff (type : ValueType) :
    (Value.zero type).conformsTo type = true ↔ type.lacksZero = false := by
  cases type <;> simp [Value.zero, Value.conformsTo, Value.type, ValueType.lacksZero]

theorem Value.zero_of_lacking {type : ValueType} (lacks : type.lacksZero = true) :
    Value.zero type = .nil := by
  cases type with
  | xml | struct name | connector name => rfl
  | _ => cases lacks

/-- The routine behind this conversion gives values of its target whenever it succeeds on operands
of its source. -/
def RoutineTable.Honest (table : RoutineTable) (conversion : Conversion) : Prop :=
  ∀ routine, table.routines.find? conversion.routine = some routine →
    ∀ heap operand value, operand.type = conversion.source → routine heap operand = .ok value →
      value.conformsTo conversion.target = true

namespace Conversion

section

variable {conversion : Conversion} {values : List Value}

theorem conform_succeeded {value : Value} (yields : conversion.Yields (.ok value) values)
    (typed : value.conformsTo conversion.target = true) :
    Conform (conversion.slots.map Slot.type) values := by
  unfold slots Conform
  cases yields with
  | safe safe => simp [safe, typed]
  | done fallible => simp [fallible, typed, Value.nil_conforms_error]

theorem conform_failed_iff {message : String}
    (yields : conversion.Yields (.error message) values) :
    Conform (conversion.slots.map Slot.type) values ↔ conversion.target.lacksZero = false := by
  unfold slots Conform
  cases yields with
  | failed fallible =>
      simp [fallible, Value.zero_conforms_iff, Value.error_conforms_error]

end

end Conversion

/-- The results of a checked cast conform to its slots unless its routine has failed behind a
conversion to a type without a zero; then the value slot holds nil. -/
theorem results_conform_unless_zero_lacks {table : ConversionTable} {cast bound : Cast}
    {source : ValueType} (checked : table.bindCast cast source = .ok bound)
    {routines : RoutineTable}
    (honest : ∀ conversion, bound.conversion = some conversion → routines.Honest conversion)
    {heap : Heap} {operand : Value} {values : List Value}
    (answer : routines.convert heap bound operand = .ok values) :
    ¬Conform bound.types values ↔
      ∃ conversion routine message, bound.conversion = some conversion ∧
        conversion.safe = false ∧ conversion.target.lacksZero = true ∧
        routines.routines.find? conversion.routine = some routine ∧
        routine heap operand = .error message ∧ values = [.nil, .error message] := by
  obtain ⟨conversion, -, rfl⟩ := (table.bindCast_eq_ok_iff cast bound source).1 checked
  obtain ⟨current, routine, same, found, typed, yields⟩ :=
    (routines.convert_eq_ok_iff heap (cast.bind conversion) operand values).1 answer
  cases same
  have types : (cast.bind conversion).types = conversion.slots.map Slot.type := rfl
  rw [types]
  cases outcome : routine heap operand with
  | ok value =>
      rw [outcome] at yields
      have conforms := honest conversion rfl routine found heap operand value typed outcome
      constructor
      · intro misfit
        exact absurd (Conversion.conform_succeeded yields conforms) misfit
      · rintro ⟨other, otherRoutine, message, same, -, -, otherFound, failed, -⟩
        cases same
        rw [found] at otherFound
        cases otherFound
        rw [outcome] at failed
        cases failed
  | error message =>
      rw [outcome] at yields
      rw [Conversion.conform_failed_iff yields, Bool.not_eq_false]
      cases yields with
      | failed fallible =>
          constructor
          · intro lacks
            refine ⟨conversion, routine, message, rfl, fallible, lacks, found, outcome, ?_⟩
            rw [Value.zero_of_lacking lacks]
          · rintro ⟨other, -, -, same, -, lacks, -⟩
            cases same
            exact lacks

def response : InstanceRef := ⟨0, ⟨⟨12⟩, ⟨16⟩⟩⟩

def jsonToResponse : Conversion := ⟨.json, .struct response.type, false, ⟨15⟩⟩

/-- Gives a response for any document but `null`. -/
def respond : Routine
  | _, .json .null => .error "nope"
  | _, _ => .ok (.struct response)

theorem nil_stands_in_for_response :
    let bound := (Cast.unbound ⟨0⟩ (.struct response.type) .dummy).bind jsonToResponse
    let routines := RoutineTable.empty.register ⟨15⟩ respond
    routines.convert .empty bound (.json .null) = .ok [.nil, .error "nope"] ∧
      ¬Conform bound.types [.nil, .error "nope"] ∧
      routines.convert .empty bound (.json (.int 7)) = .ok [.struct response, .nil] ∧
      Conform bound.types [.struct response, .nil] := by
  intro bound routines
  have checked : (ConversionTable.empty.register jsonToResponse).1.bindCast
      (.unbound ⟨0⟩ (.struct response.type) .dummy) .json = .ok bound := rfl
  have honest : ∀ conversion, bound.conversion = some conversion →
      routines.Honest conversion := by
    intro conversion same routine found heap operand value typed succeeded
    cases same
    cases found
    unfold respond at succeeded
    split at succeeded
    · cases succeeded
    · cases succeeded
      rfl
  have failure : routines.convert .empty bound (.json .null) = .ok [.nil, .error "nope"] := rfl
  have success : routines.convert .empty bound (.json (.int 7)) = .ok [.struct response, .nil] :=
    rfl
  have failureFits := results_conform_unless_zero_lacks checked honest failure
  have successFits := results_conform_unless_zero_lacks checked honest success
  refine ⟨failure, ?_, success, ?_⟩
  · exact failureFits.2 ⟨jsonToResponse, respond, "nope", rfl, rfl, rfl, rfl, rfl, rfl⟩
  · by_contra misfit
    obtain ⟨conversion, routine, message, -, -, -, -, -, values⟩ := successFits.1 misfit
    cases values

def jsonToXml : Conversion := ⟨.json, .xml, false, ⟨15⟩⟩

theorem failed_results_need_not_conform :
    ¬∀ (table : ConversionTable) (cast bound : Cast) (source : ValueType)
        (routines : RoutineTable) (heap : Heap) (operand : Value) (values : List Value),
      table.bindCast cast source = .ok bound →
      (∀ conversion, bound.conversion = some conversion → routines.Honest conversion) →
      routines.convert heap bound operand = .ok values → Conform bound.types values := by
  intro conform
  let bound := (Cast.unbound ⟨0⟩ .xml .dummy).bind jsonToXml
  let routines := RoutineTable.empty.register ⟨15⟩ Cast.refuses
  have honest : ∀ conversion, bound.conversion = some conversion →
      routines.Honest conversion := by
    intro conversion same routine found heap operand value typed succeeded
    cases same
    cases found
    cases succeeded
  have conforms := conform (ConversionTable.empty.register jsonToXml).1
    (.unbound ⟨0⟩ .xml .dummy) bound .json routines .empty (.json .null)
    [.nil, .error "nope"] rfl honest rfl
  cases conforms with
  | cons first rest => cases first

end NativeBinding
