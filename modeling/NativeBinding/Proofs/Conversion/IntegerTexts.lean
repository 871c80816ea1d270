import NativeBinding.Proofs.Session.BuiltinConversions
import NativeBinding.Proofs.Text.Decimal

/-!
# Converting between texts and ints

The builtin conversion of a text reads a decimal number that fits into 64 bits, in any spelling, and
answers with zero and an error for every other text. The builtin conversion of an int writes one of
these spellings. So a number survives being written and read, and a text survives being read and
written only if its spelling is the one that is written.
-/

set_option autoImplicit false

namespace NativeBinding

namespace Builtin

def intOfText : Entry := ⟨.string, .int, false, "string_to_int", stringToInt⟩

def textOfInt : Entry := ⟨.int, .string, true, "int_to_string", intToString⟩

theorem intOfText_listed : intOfText ∈ conversions := by
  simp [conversions, intOfText]

theorem textOfInt_listed : textOfInt ∈ conversions := by
  simp [conversions, textOfInt]

section

variable {routines : RoutineTable} {cast : Cast}

theorem convert_text (behind : intOfText.Behind routines cast) (heap : Heap) (text : String) :
    routines.convert heap cast (.string text) =
      .ok (match Decimal.read? text with
        | some n => [.int n, .nil]
        | none => [.int 0, .error ("'" ++ text ++ "' cannot be converted to int")]) := by
  have typed : (Value.string text).type = intOfText.source := rfl
  obtain ⟨name, runs⟩ := convert_behind behind heap typed
  have outcome : intOfText.routine heap (.string text) = _ := stringToInt_string heap text
  rw [runs, outcome]
  cases Decimal.read? text <;> rfl

theorem convert_int (behind : textOfInt.Behind routines cast) (heap : Heap) (n : Int64) :
    routines.convert heap cast (.int n) = .ok [.string (Decimal.ofInt n.toInt)] := by
  have typed : (Value.int n).type = textOfInt.source := rfl
  obtain ⟨name, runs⟩ := convert_behind behind heap typed
  exact runs

theorem convert_text_eq_int_iff (behind : intOfText.Behind routines cast) (heap : Heap)
    (text : String) (n : Int64) :
    routines.convert heap cast (.string text) = .ok [.int n, .nil] ↔
      Decimal.read? text = some n := by
  rw [convert_text behind]
  cases Decimal.read? text <;> simp

end

/-- A text is converted to the number that it denotes, if the number fits into 64 bits; a text that
denotes no such number is answered with zero and an error that quotes it. -/
theorem decimal_texts_become_ints {routines : RoutineTable} {cast : Cast}
    (behind : intOfText.Behind routines cast) (heap : Heap) (text : String) :
    (∀ number : Int,
      (∃ n : Int64, n.toInt = number ∧
        routines.convert heap cast (.string text) = .ok [.int n, .nil]) ↔
      Decimal.Denotes text.toList number ∧ -2 ^ 63 ≤ number ∧ number < 2 ^ 63) ∧
    ((¬∃ number : Int,
      Decimal.Denotes text.toList number ∧ -2 ^ 63 ≤ number ∧ number < 2 ^ 63) →
        routines.convert heap cast (.string text) =
          .ok [.int 0, .error ("'" ++ text ++ "' cannot be converted to int")]) := by
  constructor
  · intro number
    constructor
    · intro converted
      obtain ⟨n, same, answer⟩ := converted
      have found := (convert_text_eq_int_iff behind heap text n).1 answer
      have denotes := (Decimal.read_eq_some_iff text n).1 found
      rw [same] at denotes
      rw [← same] at denotes ⊢
      exact ⟨denotes, n.le_toInt, n.toInt_lt⟩
    · intro denoted
      obtain ⟨denotes, low, high⟩ := denoted
      have same := Int64.toInt_ofInt_of_le low high
      refine ⟨Int64.ofInt number, same, ?_⟩
      rw [convert_text_eq_int_iff behind, Decimal.read_eq_some_iff, same]
      exact denotes
  · intro nothing
    rw [convert_text behind, (Decimal.read_eq_none_iff text).2 nothing]

/-- With the builtins, the text of the least number is read, and one above the greatest is not. -/
theorem least_read_and_overflow_refused :
    let session := Session.start {} .silent
    ∃ bound,
      session.conversions.bindCast (.unbound ⟨0⟩ .int .dummy) .string = .ok bound ∧
        intOfText.Behind session.routines bound ∧
        session.routines.convert .empty bound (.string "-9223372036854775808") =
          .ok [.int Int64.minValue, .nil] ∧
        session.routines.convert .empty bound (.string "+9223372036854775808") =
          .ok [.int 0, .error "'+9223372036854775808' cannot be converted to int"] := by
  intro session
  have loads : ({} : Settings).loadBuiltins = true := rfl
  have unchecked : (Cast.unbound ⟨0⟩ .int .dummy).target = intOfText.target := rfl
  obtain ⟨bound, checked, behind⟩ :=
    Session.builtin_checked_at_start loads .silent intOfText_listed unchecked
  refine ⟨bound, checked, behind, ?_, ?_⟩
  · have denotes : Decimal.Denotes "-9223372036854775808".toList (-2 ^ 63) :=
      .minus ⟨by decide, List.all_eq_true.1 (by decide)⟩
    obtain ⟨n, least, converted⟩ :=
      ((decimal_texts_become_ints behind .empty _).1 _).2 ⟨denotes, by decide, by decide⟩
    rw [converted, Int64.toInt_inj.1 (least.trans Int64.toInt_minValue.symm)]
  · apply (decimal_texts_become_ints behind .empty _).2
    intro denoted
    obtain ⟨number, denotes, -, high⟩ := denoted
    obtain ⟨-, same⟩ := (Decimal.denotes_plus_iff "9223372036854775808".toList number).1 denotes
    rw [same] at high
    exact absurd high (by decide)

/-- What is written for a number is read back as that number. A text that is read as a number is
written for it only if it is canonical, so different numbers are written differently. -/
theorem ints_survive_texts {routines : RoutineTable} {reading writing : Cast}
    (reads : intOfText.Behind routines reading) (writes : textOfInt.Behind routines writing)
    (heap : Heap) :
    (∀ n : Int64, ∃ text,
      routines.convert heap writing (.int n) = .ok [.string text] ∧
        routines.convert heap reading (.string text) = .ok [.int n, .nil]) ∧
    (∀ (text : String) (n : Int64),
      routines.convert heap reading (.string text) = .ok [.int n, .nil] →
        (routines.convert heap writing (.int n) = .ok [.string text] ↔
          Decimal.Canonical text.toList)) ∧
    ∀ m n : Int64,
      routines.convert heap writing (.int m) = routines.convert heap writing (.int n) → m = n := by
  have written : ∀ n text, routines.convert heap writing (.int n) = .ok [.string text] ↔
      Decimal.ofInt n.toInt = text := by
    intro n text
    rw [convert_int writes]
    simp
  refine ⟨?_, ?_, ?_⟩
  · intro n
    refine ⟨Decimal.ofInt n.toInt, convert_int writes heap n, ?_⟩
    rw [convert_text_eq_int_iff reads]
    exact Decimal.read_ofInt n
  · intro text n read
    rw [convert_text_eq_int_iff reads, Decimal.read_eq_some_iff] at read
    rw [written, Decimal.ofInt_eq_iff read]
  · intro m n same
    rw [convert_int writes heap n, written] at same
    exact Decimal.ofInt_inj same

/-- With the builtins, spare zeros and a spare sign are read but not written. -/
theorem spare_zeros_not_written :
    let session := Session.start {} .silent
    ∃ reading writing,
      session.conversions.bindCast (.unbound ⟨0⟩ .int .dummy) .string = .ok reading ∧
        session.conversions.bindCast (.unbound ⟨0⟩ .string .dummy) .int = .ok writing ∧
        intOfText.Behind session.routines reading ∧
        textOfInt.Behind session.routines writing ∧
        session.routines.convert .empty reading (.string "+007") = .ok [.int 7, .nil] ∧
        session.routines.convert .empty writing (.int 7) ≠ .ok [.string "+007"] ∧
        ∃ text,
          session.routines.convert .empty writing (.int Int64.minValue) = .ok [.string text] ∧
            session.routines.convert .empty reading (.string text) =
              .ok [.int Int64.minValue, .nil] := by
  intro session
  have loads : ({} : Settings).loadBuiltins = true := rfl
  have intTarget : (Cast.unbound ⟨0⟩ .int .dummy).target = intOfText.target := rfl
  have textTarget : (Cast.unbound ⟨0⟩ .string .dummy).target = textOfInt.target := rfl
  obtain ⟨reading, readingChecked, reads⟩ :=
    Session.builtin_checked_at_start loads .silent intOfText_listed intTarget
  obtain ⟨writing, writingChecked, writes⟩ :=
    Session.builtin_checked_at_start loads .silent textOfInt_listed textTarget
  obtain ⟨survives, writtenBack, -⟩ := ints_survive_texts reads writes .empty
  have seven := (convert_text_eq_int_iff reads .empty "+007" 7).2 (by decide)
  refine ⟨reading, writing, readingChecked, writingChecked, reads, writes, seven, ?_,
    survives Int64.minValue⟩
  intro written
  exact Decimal.not_canonical_plus _ ((writtenBack "+007" 7 seven).1 written)

end Builtin

end NativeBinding
