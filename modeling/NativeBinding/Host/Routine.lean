import NativeBinding.Conversion.Cast
import NativeBinding.Value.Heap

/-!
# Running conversions

A routine turns a value into another or fails with a message; it may look at instances but not
change them. Running a bound cast gives one value per slot: a routine that fails behind a
conversion that may fail fills the error slot, and only behind a safe conversion is it an error.
-/

set_option autoImplicit false

namespace NativeBinding

abbrev Routine := Heap → Value → Except String Value

/-- Why a conversion could not run at all. -/
inductive ConvertError where
  | unresolved
  | unknownRoutine (routine : Name)
  | operandType (expected found : ValueType)
  | safeFailed (message : String)
  deriving DecidableEq, Repr

def ConvertError.message : ConvertError → String
  | unresolved => "conversion expression is unresolved"
  | unknownRoutine routine => "no conversion routine registered as " ++ routine.dump
  | operandType expected found =>
      "operand is " ++ found.dump ++ ", operator expects " ++ expected.dump
  | safeFailed message => "safe conversion failed: " ++ message

/-- Routines by name. -/
structure RoutineTable where
  routines : OrderedMap Name Routine

namespace RoutineTable

def empty : RoutineTable := ⟨.empty⟩

def size (table : RoutineTable) : Nat := table.routines.size

def isEmpty (table : RoutineTable) : Bool := table.routines.isEmpty

def contains (table : RoutineTable) (name : Name) : Bool := table.routines.contains name

/-- Replaces a routine of the same name. -/
def register (table : RoutineTable) (name : Name) (routine : Routine) : RoutineTable :=
  ⟨table.routines.insert name routine⟩

/-- The results of a conversion whose routine has run. -/
def results (conversion : Conversion) : Except String Value → Except ConvertError (List Value)
  | .ok value => .ok (if conversion.safe then [value] else [value, .nil])
  | .error message =>
      if conversion.safe then .error (.safeFailed message)
      else .ok [.zero conversion.target, .error message]

def convert (table : RoutineTable) (heap : Heap) (cast : Cast) (operand : Value) :
    Except ConvertError (List Value) :=
  match cast.conversion with
  | none => .error .unresolved
  | some conversion =>
      match table.routines.find? conversion.routine with
      | none => .error (.unknownRoutine conversion.routine)
      | some routine =>
          if operand.type = conversion.source then results conversion (routine heap operand)
          else .error (.operandType conversion.source operand.type)

theorem find?_register (table : RoutineTable) (name other : Name) (routine : Routine) :
    (table.register name routine).routines.find? other =
      if other = name then some routine else table.routines.find? other :=
  OrderedMap.find?_insert ..

theorem convert_bound (table : RoutineTable) (heap : Heap) {cast : Cast} {operand : Value}
    {conversion : Conversion} {routine : Routine} (bound : cast.conversion = some conversion)
    (found : table.routines.find? conversion.routine = some routine)
    (typed : operand.type = conversion.source) :
    table.convert heap cast operand = results conversion (routine heap operand) := by
  unfold convert
  rw [bound]
  dsimp only
  rw [found]
  exact if_pos typed

/-- A routine runs only behind a bound cast, where it is registered, and on an operand of the type
that its conversion starts from. -/
theorem convert_cases (table : RoutineTable) (heap : Heap) (cast : Cast) (operand : Value) :
    (∃ conversion routine, cast.conversion = some conversion ∧
      table.routines.find? conversion.routine = some routine ∧ operand.type = conversion.source ∧
      table.convert heap cast operand = results conversion (routine heap operand)) ∨
    (cast.conversion = none ∧ table.convert heap cast operand = .error .unresolved) ∨
    (∃ conversion, cast.conversion = some conversion ∧
      table.routines.find? conversion.routine = none ∧
      table.convert heap cast operand = .error (.unknownRoutine conversion.routine)) ∨
    ∃ conversion, cast.conversion = some conversion ∧ operand.type ≠ conversion.source ∧
      table.convert heap cast operand =
        .error (.operandType conversion.source operand.type) := by
  cases bound : cast.conversion with
  | none =>
      refine .inr (.inl ⟨rfl, ?_⟩)
      simp only [convert, bound]
  | some conversion =>
      cases found : table.routines.find? conversion.routine with
      | none =>
          refine .inr (.inr (.inl ⟨conversion, rfl, found, ?_⟩))
          simp only [convert, bound, found]
      | some routine =>
          by_cases typed : operand.type = conversion.source
          · exact .inl ⟨conversion, routine, rfl, found, typed,
              table.convert_bound heap bound found typed⟩
          · refine .inr (.inr (.inr ⟨conversion, rfl, typed, ?_⟩))
            simp only [convert, bound, found, typed, if_false]

/-- As many values as the conversion has slots, unless a safe one failed. -/
theorem results_cases (conversion : Conversion) (outcome : Except String Value) :
    (∃ values, results conversion outcome = .ok values ∧
      values.length = conversion.slots.length) ∨
      ∃ message, conversion.safe = true ∧ outcome = .error message ∧
        results conversion outcome = .error (.safeFailed message) := by
  rw [Conversion.length_slots]
  unfold results Conversion.arity
  cases outcome with
  | ok value => cases conversion.safe <;> exact .inl ⟨_, rfl, rfl⟩
  | error message =>
      cases safe : conversion.safe with
      | false => exact .inl ⟨_, rfl, rfl⟩
      | true => exact .inr ⟨message, rfl, rfl, rfl⟩

def dump (table : RoutineTable) : String :=
  "ConversionRuntime \x7b routines: " ++ Nat.repr table.size ++ " \x7d"

end RoutineTable

end NativeBinding
