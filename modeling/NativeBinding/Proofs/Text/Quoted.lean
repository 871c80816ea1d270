import Mathlib.Tactic.SplitIfs
import NativeBinding.Proofs.Text.Cutting
import NativeBinding.Text.Quoted

/-!
# Quoted texts end where they end

An escape tells where it ends and which character it stands for: a backslash starts every escape
that is longer than its character, the character behind it tells the short escapes from the long
one, and the long one goes up to its closing brace. No escape starts with a quote, so the first
quote between two escapes closes the text. None of this depends on which characters are plain.
-/

set_option autoImplicit false

namespace NativeBinding.Text

theorem digitChar_inj {m n : Nat} (small : m < 16) (otherSmall : n < 16)
    (same : m.digitChar = n.digitChar) : m = n := by
  have all : ∀ m < 16, ∀ n < 16, m.digitChar = n.digitChar → m = n := by decide
  exact all m small n otherSmall same

/-- The last hexadecimal digit, and before it the digits of the sixteenth, unless that is zero. -/
theorem hexDigits_eq (n : Nat) :
    Nat.toDigits 16 n =
      (if n < 16 then [] else Nat.toDigits 16 (n / 16)) ++ [(n % 16).digitChar] := by
  rw [Nat.toDigits_eq_if (by decide)]
  split
  · next small => rw [Nat.mod_eq_of_lt small, List.nil_append]
  · rfl

theorem hexDigits_inj {m n : Nat} (same : Nat.toDigits 16 m = Nat.toDigits 16 n) : m = n := by
  induction m using Nat.strongRecOn generalizing n with
  | ind m ih =>
      rw [hexDigits_eq m, hexDigits_eq n] at same
      have sameLast := digitChar_inj (Nat.mod_lt m (by decide)) (Nat.mod_lt n (by decide))
        (List.singleton_inj.1 (List.append_inj_right' same rfl))
      have sameFront := List.append_inj_left' same rfl
      split at sameFront
      · split at sameFront
        · omega
        · exact absurd sameFront.symm Nat.toDigits_ne_nil
      · split at sameFront
        · exact absurd sameFront Nat.toDigits_ne_nil
        · have sameQuotients := ih (m / 16) (by omega) sameFront
          omega

theorem closing_not_hexDigit (n : Nat) : '\x7d' ∉ Nat.toDigits 16 n := by
  induction n using Nat.strongRecOn with
  | ind n ih =>
      have digit : ∀ m < 16, '\x7d' ≠ m.digitChar := by decide
      rw [hexDigits_eq, List.mem_append, List.mem_singleton, not_or]
      refine ⟨?_, digit _ (Nat.mod_lt n (by decide))⟩
      split
      · exact List.not_mem_nil
      · exact ih (n / 16) (by omega)

/-- The characters with an escape of two characters, each with the second one. -/
def shortEscapes : List (Char × Char) :=
  [('\x00', '0'), ('\t', 't'), ('\n', 'n'), ('\r', 'r'), ('"', '"'), ('\\', '\\')]

/-- The ways in which a character can be written in a quoted text. -/
inductive Escapes : Char → List Char → Prop where
  | short {c mark : Char} (listed : (c, mark) ∈ shortEscapes) : Escapes c ['\\', mark]
  | itself {c : Char} (notQuote : c ≠ '"') (notBackslash : c ≠ '\\') : Escapes c [c]
  | codePoint {c : Char} : Escapes c (codePointEscape c)

theorem escapes_escape (plain : Char → Bool) (c : Char) : Escapes c (escape plain c) := by
  unfold escape
  split_ifs with null tab newline carriage quote backslash plainly
  · exact .short (by rw [null]; decide)
  · exact .short (by rw [tab]; decide)
  · exact .short (by rw [newline]; decide)
  · exact .short (by rw [carriage]; decide)
  · exact .short (by rw [quote]; decide)
  · exact .short (by rw [backslash]; decide)
  · exact .itself quote backslash
  · exact .codePoint

theorem short_inj {c d mark : Char} (listed : (c, mark) ∈ shortEscapes)
    (otherListed : (d, mark) ∈ shortEscapes) : c = d := by
  have marked : ∀ entry ∈ shortEscapes, ∀ other ∈ shortEscapes,
      entry.2 = other.2 → entry.1 = other.1 := by decide
  exact marked _ listed _ otherListed rfl

theorem short_not_long {c : Char} (listed : (c, 'u') ∈ shortEscapes) : False := by
  have unmarked : ∀ entry ∈ shortEscapes, entry.2 ≠ 'u' := by decide
  exact unmarked _ listed rfl

/-- An escape is read in one way, whatever follows it. -/
theorem escapes_inj {c d : Char} {first second rest otherRest : List Char}
    (escapes : Escapes c first) (otherEscapes : Escapes d second)
    (same : first ++ rest = second ++ otherRest) : c = d ∧ rest = otherRest := by
  cases escapes with
  | short listed =>
      cases otherEscapes with
      | short otherListed =>
          cases same
          exact ⟨short_inj listed otherListed, rfl⟩
      | itself notQuote notBackslash =>
          cases same
          exact absurd rfl notBackslash
      | codePoint =>
          cases same
          exact (short_not_long listed).elim
  | itself notQuote notBackslash =>
      cases otherEscapes with
      | short listed =>
          cases same
          exact absurd rfl notBackslash
      | itself => exact ⟨(List.cons.inj same).1, (List.cons.inj same).2⟩
      | codePoint =>
          cases same
          exact absurd rfl notBackslash
  | codePoint =>
      cases otherEscapes with
      | short listed =>
          cases same
          exact (short_not_long listed).elim
      | itself notQuote notBackslash =>
          cases same
          exact absurd rfl notBackslash
      | codePoint =>
          simp only [codePointEscape, List.append_assoc, List.append_cancel_left_eq,
            List.singleton_append] at same
          obtain ⟨digits, sameRests⟩ :=
            cut_at (closing_not_hexDigit c.toNat) (closing_not_hexDigit d.toNat) same
          exact ⟨Char.toNat_inj.1 (hexDigits_inj digits), sameRests⟩

theorem quote_not_first {c : Char} {written rest otherRest : List Char}
    (escapes : Escapes c written) : written ++ rest ≠ '"' :: otherRest := by
  intro same
  cases escapes with
  | short listed => cases same
  | itself notQuote notBackslash =>
      cases same
      exact absurd rfl notQuote
  | codePoint => cases same

/-- The quote that closes a text is found, and the text before it. -/
theorem closed_inj (plain : Char → Bool) {text other rest otherRest : List Char}
    (same : text.flatMap (escape plain) ++ '"' :: rest =
      other.flatMap (escape plain) ++ '"' :: otherRest) : text = other ∧ rest = otherRest := by
  induction text generalizing other with
  | nil =>
      cases other with
      | nil => exact ⟨rfl, (List.cons.inj same).2⟩
      | cons d other =>
          rw [List.flatMap_cons, List.append_assoc] at same
          exact absurd same.symm (quote_not_first (escapes_escape plain d))
  | cons c text ih =>
      rw [List.flatMap_cons, List.append_assoc] at same
      cases other with
      | nil => exact absurd same (quote_not_first (escapes_escape plain c))
      | cons d other =>
          rw [List.flatMap_cons, List.append_assoc] at same
          obtain ⟨rfl, behind⟩ :=
            escapes_inj (escapes_escape plain c) (escapes_escape plain d) same
          obtain ⟨rfl, sameRests⟩ := ih behind
          exact ⟨rfl, sameRests⟩

theorem quoted_inj (plain : Char → Bool) {text other rest otherRest : List Char}
    (same : quotedChars plain text ++ rest = quotedChars plain other ++ otherRest) :
    text = other ∧ rest = otherRest := by
  simp only [quotedChars, List.cons_append, List.append_assoc, List.nil_append] at same
  exact closed_inj plain (List.cons.inj same).2

end NativeBinding.Text
