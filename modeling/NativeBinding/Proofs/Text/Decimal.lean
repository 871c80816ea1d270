import Mathlib.Algebra.Group.Int.Defs
import Mathlib.Data.List.Basic
import NativeBinding.Text.Decimal

/-!
# What decimal texts denote

A text denotes a number by its sign and the digits behind it, in whatever spelling. Reading finds
the number that a text denotes, if it fits into 64 bits: a word that overflows on the way would have
overflowed at the end as well. Writing gives the one spelling that has no spare zero and no spare
sign.
-/

set_option autoImplicit false

namespace NativeBinding.Decimal

/-- Decimal digits, at least one. -/
structure Numeral (digits : List Char) : Prop where
  nonempty : digits ≠ []
  decimal : ∀ c ∈ digits, c.isDigit = true

/-- The text is a numeral behind one sign or none, and stands for the number. -/
inductive Denotes : List Char → Int → Prop where
  | unsigned {digits : List Char} (numeral : Numeral digits) :
      Denotes digits (Nat.ofDigitChars 10 digits 0)
  | plus {digits : List Char} (numeral : Numeral digits) :
      Denotes ('+' :: digits) (Nat.ofDigitChars 10 digits 0)
  | minus {digits : List Char} (numeral : Numeral digits) :
      Denotes ('-' :: digits) (-(Nat.ofDigitChars 10 digits 0 : Int))

/-- The number behind a minus sign, or behind none. -/
def signed (negative : Bool) (n : Nat) : Int := if negative then -(n : Int) else n

@[simp]
theorem signed_true (n : Nat) : signed true n = -(n : Int) := rfl

@[simp]
theorem signed_false (n : Nat) : signed false n = (n : Int) := rfl

theorem not_sign_of_digit {c : Char} (decimal : c.isDigit = true) : c ≠ '-' ∧ c ≠ '+' := by
  constructor <;> (intro same; subst same; revert decimal; decide)

theorem denotes_minus_iff (digits : List Char) (n : Int) :
    Denotes ('-' :: digits) n ↔
      Numeral digits ∧ n = signed true (Nat.ofDigitChars 10 digits 0) := by
  constructor
  · intro denotes
    cases denotes with
    | unsigned numeral =>
        exact absurd rfl (not_sign_of_digit (numeral.decimal _ List.mem_cons_self)).1
    | minus numeral => exact ⟨numeral, rfl⟩
  · intro found
    rw [found.2]
    exact .minus found.1

theorem denotes_plus_iff (digits : List Char) (n : Int) :
    Denotes ('+' :: digits) n ↔
      Numeral digits ∧ n = signed false (Nat.ofDigitChars 10 digits 0) := by
  constructor
  · intro denotes
    cases denotes with
    | unsigned numeral =>
        exact absurd rfl (not_sign_of_digit (numeral.decimal _ List.mem_cons_self)).2
    | plus numeral => exact ⟨numeral, rfl⟩
  · intro found
    rw [found.2]
    exact .plus found.1

theorem denotes_unsigned_iff {digits : List Char} (notMinus : ∀ rest, digits ≠ '-' :: rest)
    (notPlus : ∀ rest, digits ≠ '+' :: rest) (n : Int) :
    Denotes digits n ↔ Numeral digits ∧ n = signed false (Nat.ofDigitChars 10 digits 0) := by
  constructor
  · intro denotes
    cases denotes with
    | unsigned numeral => exact ⟨numeral, rfl⟩
    | plus numeral => exact absurd rfl (notPlus _)
    | minus numeral => exact absurd rfl (notMinus _)
  · intro found
    rw [found.2]
    exact .unsigned found.1

section Reading

theorem digit_eq_some {c : Char} (decimal : c.isDigit = true) :
    digit? c = some (c.toNat - '0'.toNat) := by
  unfold digit?
  rw [if_pos decimal]

theorem digit_eq_none {c : Char} (other : ¬c.isDigit = true) : digit? c = none := by
  unfold digit?
  rw [if_neg other]

theorem word_eq_some_iff (n : Int) (word : Int64) : word? n = some word ↔ word.toInt = n := by
  unfold word?
  constructor
  · intro fits
    split at fits
    · next range =>
        cases fits
        rw [← Int64.ofIntLE_eq_ofInt range.1 range.2]
        exact Int64.toInt_ofIntLE
    · cases fits
  · intro same
    rw [← same, if_pos ⟨word.minValue_le_toInt, word.toInt_le⟩, Int64.ofInt_toInt]

theorem word_eq_none_iff (n : Int) : word? n = none ↔ n < -2 ^ 63 ∨ 2 ^ 63 ≤ n := by
  unfold word?
  rw [Int64.toInt_minValue, Int64.toInt_maxValue]
  split
  · next range => simp only [reduceCtorEq, false_iff]; omega
  · next range => simp only [true_iff]; omega

/-- What has left the words does not come back by further digits. -/
theorem overflow_grows {negative : Bool} {n m : Nat} (grows : n ≤ m)
    (overflow : word? (signed negative n) = none) : word? (signed negative m) = none := by
  rw [word_eq_none_iff] at overflow ⊢
  cases negative with
  | false => rw [signed_false] at overflow ⊢; omega
  | true => rw [signed_true] at overflow ⊢; omega

theorem append_digit {negative : Bool} {word : Int64} {n : Nat}
    (holds : word.toInt = signed negative n) {c : Char} (decimal : c.isDigit = true) :
    append? negative word c = word? (signed negative (10 * n + (c.toNat - '0'.toNat))) := by
  have tenfold : word.toInt * 10 = signed negative (10 * n) := by
    rw [holds]
    cases negative with
    | false => rw [signed_false, signed_false]; omega
    | true => rw [signed_true, signed_true]; omega
  unfold append?
  rw [digit_eq_some decimal, tenfold]
  cases fits : word? (signed negative (10 * n)) with
  | none => exact (overflow_grows (Nat.le_add_right _ _) fits).symm
  | some tens =>
      have held := (word_eq_some_iff _ tens).1 fits
      have next : (if negative then tens.toInt - (c.toNat - '0'.toNat : Nat)
          else tens.toInt + (c.toNat - '0'.toNat : Nat)) =
          signed negative (10 * n + (c.toNat - '0'.toNat)) := by
        rw [held]
        cases negative with
        | false => exact (Int.natCast_add _ _).symm
        | true =>
            rw [if_pos rfl, signed_true, signed_true]
            omega
      exact congrArg word? next

/-- Digits behind a number are read to the end exactly if what they make of the number fits. -/
theorem fold_digits (negative : Bool) (digits : List Char) (n : Nat) :
    (word? (signed negative n)).bind (digits.foldlM (append? negative)) =
      if digits.all Char.isDigit then
        word? (signed negative (Nat.ofDigitChars 10 digits n))
      else none := by
  induction digits generalizing n with
  | nil => simp
  | cons c rest ih =>
      by_cases decimal : c.isDigit = true
      · have onward := ih (10 * n + (c.toNat - '0'.toNat))
        simp only [List.all_cons, decimal, Bool.true_and, Nat.ofDigitChars_cons]
        rw [← onward]
        cases fits : word? (signed negative n) with
        | none =>
            have grows : n ≤ 10 * n + (c.toNat - '0'.toNat) := by omega
            rw [overflow_grows grows fits]
            rfl
        | some word =>
            rw [← append_digit ((word_eq_some_iff _ word).1 fits) decimal]
            rfl
      · have stuck : ∀ word, append? negative word c = none := by
          intro word
          unfold append?
          rw [digit_eq_none decimal]
          rfl
        cases word? (signed negative n) <;> simp [decimal, stuck]

theorem readDigits_eq_some_iff (negative : Bool) (digits : List Char) (word : Int64) :
    readDigits? negative digits = some word ↔
      Numeral digits ∧ word.toInt = signed negative (Nat.ofDigitChars 10 digits 0) := by
  have zero : word? (signed negative 0) = some 0 := by cases negative <;> rfl
  have folded := fold_digits negative digits 0
  rw [zero, Option.bind_some] at folded
  unfold readDigits?
  by_cases nothing : digits = []
  · rw [if_pos nothing]
    constructor
    · intro impossible
      cases impossible
    · intro numeral
      exact absurd nothing numeral.1.nonempty
  · rw [if_neg nothing, folded]
    by_cases decimal : digits.all Char.isDigit = true
    · rw [if_pos decimal, word_eq_some_iff]
      exact (and_iff_right ⟨nothing, List.all_eq_true.1 decimal⟩).symm
    · rw [if_neg decimal]
      constructor
      · intro impossible
        cases impossible
      · intro numeral
        exact absurd (List.all_eq_true.2 numeral.1.decimal) decimal

/-- Reading is exact: it finds the number that the text denotes, and nothing if that number does not
fit or the text denotes none. -/
theorem readChars_eq_some_iff (text : List Char) (word : Int64) :
    readChars? text = some word ↔ Denotes text word.toInt := by
  unfold readChars?
  split
  · next digits => rw [readDigits_eq_some_iff, denotes_minus_iff]
  · next digits => rw [readDigits_eq_some_iff, denotes_plus_iff]
  · next notMinus notPlus => rw [readDigits_eq_some_iff, denotes_unsigned_iff notMinus notPlus]

theorem read_eq_some_iff (text : String) (word : Int64) :
    read? text = some word ↔ Denotes text.toList word.toInt :=
  readChars_eq_some_iff text.toList word

theorem read_eq_none_iff (text : String) :
    read? text = none ↔ ¬∃ n, Denotes text.toList n ∧ -2 ^ 63 ≤ n ∧ n < 2 ^ 63 := by
  constructor
  · intro refused denoted
    obtain ⟨n, denotes, low, high⟩ := denoted
    have found : read? text = some (Int64.ofInt n) := by
      rw [read_eq_some_iff, Int64.toInt_ofInt_of_le low high]
      exact denotes
    rw [refused] at found
    cases found
  · intro nothing
    cases found : read? text with
    | none => rfl
    | some word =>
        have denotes := (read_eq_some_iff text word).1 found
        exact absurd ⟨word.toInt, denotes, word.le_toInt, word.toInt_lt⟩ nothing

end Reading

section Writing

/-- A digit that may stand first where more digits follow. -/
def Leads (c : Char) : Prop := c.isDigit = true ∧ c ≠ '0'

/-- The one spelling of a number that writing uses. -/
inductive Canonical : List Char → Prop where
  | zero : Canonical ['0']
  | positive {first : Char} {rest : List Char} (leads : Leads first)
      (digits : ∀ c ∈ rest, c.isDigit = true) : Canonical (first :: rest)
  | negative {first : Char} {rest : List Char} (leads : Leads first)
      (digits : ∀ c ∈ rest, c.isDigit = true) : Canonical ('-' :: first :: rest)

theorem not_canonical_plus (rest : List Char) : ¬Canonical ('+' :: rest) := by
  intro canonical
  cases canonical with
  | positive leads digits => exact absurd rfl (not_sign_of_digit leads.1).2

theorem digitChar_of_digit {c : Char} (decimal : c.isDigit = true) :
    c.toNat - '0'.toNat < 10 ∧ Nat.toDigits 10 (c.toNat - '0'.toNat) = [c] := by
  have range := Char.isDigit_iff_toNat.1 decimal
  simp only [Char.reduceToNat] at range ⊢
  have small : c.toNat - 48 < 10 := by omega
  have same : (c.toNat - 48).digitChar = c := by
    rw [← Char.toNat_inj, Nat.toNat_digitChar_of_lt_ten small]
    omega
  exact ⟨small, by rw [Nat.toDigits_of_lt_base small, same]⟩

/-- Digits behind a number that is not zero are the last ones of the number they make. -/
theorem toDigits_ofDigitChars {n : Nat} (positive : 0 < n) {digits : List Char}
    (decimal : ∀ c ∈ digits, c.isDigit = true) :
    Nat.toDigits 10 (Nat.ofDigitChars 10 digits n) = Nat.toDigits 10 n ++ digits := by
  induction digits generalizing n with
  | nil => simp
  | cons c rest ih =>
      obtain ⟨first, others⟩ := List.forall_mem_cons.1 decimal
      obtain ⟨small, same⟩ := digitChar_of_digit first
      have grown : 0 < 10 * n + (c.toNat - '0'.toNat) := by omega
      rw [Nat.ofDigitChars_cons, ih grown others,
        ← Nat.toDigits_append_toDigits (by decide) positive small, same, List.append_assoc]
      rfl

theorem positive_of_leads {c : Char} (leads : Leads c) : 0 < c.toNat - '0'.toNat := by
  have range := Char.isDigit_iff_toNat.1 leads.1
  have other : c.toNat ≠ '0'.toNat := by
    intro same
    exact leads.2 (Char.toNat_inj.1 same)
  omega

theorem ofDigitChars_leading {first : Char} {rest : List Char} (leads : Leads first)
    (decimal : ∀ c ∈ rest, c.isDigit = true) :
    natChars (Nat.ofDigitChars 10 (first :: rest) 0) = first :: rest := by
  have positive := positive_of_leads leads
  unfold natChars
  rw [Nat.ofDigitChars_cons, Nat.mul_zero, Nat.zero_add,
    toDigits_ofDigitChars positive decimal, (digitChar_of_digit leads.1).2]
  rfl

theorem numeral_natChars (n : Nat) : Numeral (natChars n) where
  nonempty := Nat.toDigits_ne_nil
  decimal := fun _ member => Nat.isDigit_of_mem_toDigits (by decide) (by decide) member

theorem head_natChars {n : Nat} (positive : 0 < n) : (natChars n).head? ≠ some '0' := by
  unfold natChars
  induction n using Nat.strongRecOn with
  | ind n ih =>
      rw [Nat.toDigits_eq_if (by decide)]
      split
      · intro zero
        have same := Nat.digitChar_eq_zero.1 (Option.some.inj zero)
        omega
      · have shorter := ih (n / 10) (by omega) (by omega)
        rw [List.head?_append_of_ne_nil _ Nat.toDigits_ne_nil]
        exact shorter

theorem natChars_leads {n : Nat} (positive : 0 < n) :
    ∃ first rest, natChars n = first :: rest ∧ Leads first ∧ ∀ c ∈ rest, c.isDigit = true := by
  have numeral := numeral_natChars n
  have head := head_natChars positive
  cases written : natChars n with
  | nil => exact absurd written numeral.nonempty
  | cons first rest =>
      rw [written] at numeral head
      obtain ⟨decimal, others⟩ := List.forall_mem_cons.1 numeral.decimal
      refine ⟨first, rest, rfl, ⟨decimal, ?_⟩, others⟩
      intro zero
      exact head (congrArg some zero)

theorem denotes_intChars (n : Int) : Denotes (intChars n) n := by
  have value : ∀ m, Nat.ofDigitChars 10 (natChars m) 0 = m := fun _ =>
    Nat.ofDigitChars_ten_toDigits
  cases n with
  | ofNat m =>
      have denotes := Denotes.unsigned (numeral_natChars m)
      rw [value] at denotes
      exact denotes
  | negSucc m =>
      have denotes := Denotes.minus (numeral_natChars (m + 1))
      rw [value] at denotes
      exact denotes

theorem canonical_intChars (n : Int) : Canonical (intChars n) := by
  cases n with
  | ofNat m =>
      cases m with
      | zero => exact .zero
      | succ m =>
          obtain ⟨first, rest, written, leads, decimal⟩ := natChars_leads (Nat.succ_pos m)
          have canonical := Canonical.positive leads decimal
          rw [← written] at canonical
          exact canonical
  | negSucc m =>
      obtain ⟨first, rest, written, leads, decimal⟩ := natChars_leads (Nat.succ_pos m)
      have canonical := Canonical.negative leads decimal
      rw [← written] at canonical
      exact canonical

theorem intChars_neg {n : Nat} (positive : 0 < n) :
    intChars (-(n : Int)) = '-' :: natChars n := by
  cases n with
  | zero => cases positive
  | succ n => rfl

theorem intChars_of_canonical {text : List Char} (canonical : Canonical text) {n : Int}
    (denotes : Denotes text n) : intChars n = text := by
  cases canonical with
  | zero =>
      have unsigned := (denotes_unsigned_iff (by simp) (by simp) n).1 denotes
      rw [unsigned.2]
      rfl
  | @positive first rest leads decimal =>
      obtain ⟨notMinus, notPlus⟩ := not_sign_of_digit leads.1
      have unsigned := (denotes_unsigned_iff (by simp [notMinus]) (by simp [notPlus]) n).1 denotes
      rw [unsigned.2]
      exact ofDigitChars_leading leads decimal
  | @negative first rest leads decimal =>
      have minus := (denotes_minus_iff (first :: rest) n).1 denotes
      have written := ofDigitChars_leading leads decimal
      have positive : 0 < Nat.ofDigitChars 10 (first :: rest) 0 := by
        apply Nat.pos_of_ne_zero
        intro zero
        rw [zero] at written
        exact leads.2 (List.cons.inj written).1.symm
      rw [minus.2]
      exact (intChars_neg positive).trans (congrArg _ written)

/-- A text is what writing gives for its number exactly if it is canonical. -/
theorem intChars_eq_iff {text : List Char} {n : Int} (denotes : Denotes text n) :
    intChars n = text ↔ Canonical text := by
  constructor
  · intro written
    rw [← written]
    exact canonical_intChars n
  · intro canonical
    exact intChars_of_canonical canonical denotes

theorem ofInt_eq_iff {text : String} {n : Int} (denotes : Denotes text.toList n) :
    ofInt n = text ↔ Canonical text.toList := by
  rw [← intChars_eq_iff denotes, ← String.toList_inj]
  unfold ofInt
  rw [String.toList_ofList]

theorem read_ofInt (word : Int64) : read? (ofInt word.toInt) = some word := by
  rw [read_eq_some_iff]
  unfold ofInt
  rw [String.toList_ofList]
  exact denotes_intChars word.toInt

theorem ofInt_inj {m n : Int64} (same : ofInt m.toInt = ofInt n.toInt) : m = n := by
  have back := read_ofInt m
  rw [same, read_ofInt n] at back
  exact (Option.some.inj back).symm

/-- The characters that written numbers consist of. -/
def InNumber (c : Char) : Prop := c.isDigit = true ∨ c = '-'

instance (c : Char) : Decidable (InNumber c) := inferInstanceAs (Decidable (_ ∨ _))

theorem inNumber_canonical {text : List Char} (canonical : Canonical text) :
    ∀ c ∈ text, InNumber c := by
  cases canonical with
  | zero => exact List.forall_mem_singleton.2 (by decide)
  | positive leads digits =>
      rw [List.forall_mem_cons]
      exact ⟨.inl leads.1, fun c member => .inl (digits c member)⟩
  | negative leads digits =>
      rw [List.forall_mem_cons, List.forall_mem_cons]
      exact ⟨.inr rfl, .inl leads.1, fun c member => .inl (digits c member)⟩

theorem intChars_ne_nil (n : Int) : intChars n ≠ [] := by
  cases n with
  | ofNat n => exact Nat.toDigits_ne_nil
  | negSucc n => exact List.cons_ne_nil _ _

end Writing

end NativeBinding.Decimal
