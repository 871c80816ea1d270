import NativeBinding.Proofs.Text.Decimal
import NativeBinding.Proofs.Text.Quoted
import NativeBinding.Value.Json

/-!
# Documents are told apart by how they are written

The first character of a written document announces its kind, and what kind it is tells where it
ends: a number at the first character that is in no number, a text at its closing quote, a list at
its closing bracket. So a document can be read off a longer text in one way only, provided that
nothing follows that could continue a number, and two documents are written alike only if they are
the same. Floating point numbers are left out: one that is integral is written like an integer.
-/

set_option autoImplicit false

namespace NativeBinding.Json

open Decimal (InNumber)
open Text (EndsSort)

mutual

/-- No floating point number, at any depth. -/
def floatless : Json → Bool
  | float _ => false
  | array items => itemsFloatless items
  | object members => membersFloatless members
  | null | bool _ | int _ | string _ => true

def itemsFloatless : List Json → Bool
  | [] => true
  | item :: items => floatless item && itemsFloatless items

def membersFloatless : List (String × Json) → Bool
  | [] => true
  | (_, value) :: members => floatless value && membersFloatless members

end

/-- The kind of a document that starts with this character. -/
def announced? (c : Char) : Option String :=
  if InNumber c then some "int"
  else [('n', "null"), ('t', "boolean"), ('f', "boolean"), ('"', "string"), ('[', "array"),
    ('\x7b', "object")].lookup c

section

variable (plain : Char → Bool)

theorem chars_announce {document : Json} (floatless : document.floatless = true) :
    ∃ c rest, document.chars plain = c :: rest ∧ announced? c = some document.kind := by
  cases document with
  | null => exact ⟨'n', _, rfl, rfl⟩
  | bool value =>
      cases value with
      | true => exact ⟨'t', _, rfl, rfl⟩
      | false => exact ⟨'f', _, rfl, rfl⟩
  | int value =>
      cases written : Decimal.intChars value.toInt with
      | nil => exact absurd written (Decimal.intChars_ne_nil _)
      | cons c rest =>
          have inNumber := Decimal.inNumber_canonical (Decimal.canonical_intChars value.toInt)
          rw [written] at inNumber
          exact ⟨c, rest, written, if_pos (inNumber c List.mem_cons_self)⟩
  | float value => cases floatless
  | string value => exact ⟨'"', _, rfl, rfl⟩
  | array items => cases items with
      | nil => exact ⟨'[', _, rfl, rfl⟩
      | cons item items => exact ⟨'[', _, rfl, rfl⟩
  | object members => cases members with
      | nil => exact ⟨'\x7b', _, rfl, rfl⟩
      | cons member members => exact ⟨'\x7b', _, rfl, rfl⟩

/-- Two documents of one kind. -/
inductive SameKind : Json → Json → Prop where
  | null : SameKind null null
  | bool (left right : Bool) : SameKind (bool left) (bool right)
  | int (left right : Int64) : SameKind (int left) (int right)
  | float (left right : Binary64) : SameKind (float left) (float right)
  | string (left right : String) : SameKind (string left) (string right)
  | array (lefts rights : List Json) : SameKind (array lefts) (array rights)
  | object (lefts rights : List (String × Json)) : SameKind (object lefts) (object rights)

theorem sameKind_of_kind {left right : Json} (same : left.kind = right.kind) :
    SameKind left right := by
  cases left <;> cases right <;> first | constructor | simp [kind] at same

variable {left right : Json} {rest otherRest : List Char}

theorem sameKind_of_chars (floatless : left.floatless = true)
    (otherFloatless : right.floatless = true)
    (same : left.chars plain ++ rest = right.chars plain ++ otherRest) : SameKind left right := by
  obtain ⟨c, behind, written, announced⟩ := chars_announce plain floatless
  obtain ⟨d, otherBehind, otherWritten, otherAnnounced⟩ := chars_announce plain otherFloatless
  rw [written, otherWritten] at same
  obtain rfl := (List.cons.inj same).1
  exact sameKind_of_kind (Option.some.inj (announced.symm.trans otherAnnounced))

theorem chars_ne_closing (floatless : left.floatless = true) :
    left.chars plain ++ rest ≠ ']' :: otherRest := by
  intro same
  obtain ⟨c, behind, written, announced⟩ := chars_announce plain floatless
  rw [written] at same
  obtain rfl := (List.cons.inj same).1
  cases announced

/-- A non-empty array is its items with the opening bracket in the place of the first comma. -/
theorem itemsChars_of_array {lefts rights : List Json}
    (floatless : itemsFloatless lefts = true) (otherFloatless : itemsFloatless rights = true)
    (same : (array lefts).chars plain ++ rest = (array rights).chars plain ++ otherRest) :
    itemsChars plain lefts ++ rest = itemsChars plain rights ++ otherRest := by
  cases lefts with
  | nil =>
      cases rights with
      | nil => exact (List.cons.inj same).2
      | cons right rights =>
          rw [itemsFloatless, Bool.and_eq_true] at otherFloatless
          simp only [chars, List.cons_append, List.append_assoc] at same
          exact absurd (List.cons.inj same).2.symm (chars_ne_closing plain otherFloatless.1)
  | cons left lefts =>
      rw [itemsFloatless, Bool.and_eq_true] at floatless
      cases rights with
      | nil =>
          simp only [chars, List.cons_append, List.append_assoc] at same
          exact absurd (List.cons.inj same).2 (chars_ne_closing plain floatless.1)
      | cons right rights => exact congrArg (List.cons ',') (List.cons.inj same).2

theorem membersChars_of_object {lefts rights : List (String × Json)}
    (same : (object lefts).chars plain ++ rest = (object rights).chars plain ++ otherRest) :
    membersChars plain lefts ++ rest = membersChars plain rights ++ otherRest := by
  cases lefts with
  | nil =>
      cases rights with
      | nil => exact (List.cons.inj same).2
      | cons right rights => cases same
  | cons left lefts =>
      cases rights with
      | nil => cases same
      | cons right rights => exact congrArg (List.cons ',') (List.cons.inj same).2

theorem endsSort_itemsChars (items : List Json) (rest : List Char) :
    EndsSort InNumber (itemsChars plain items ++ rest) := by
  cases items with
  | nil => exact Text.endsSort_cons (by decide) _
  | cons item items => exact Text.endsSort_cons (by decide) _

theorem endsSort_membersChars (members : List (String × Json)) (rest : List Char) :
    EndsSort InNumber (membersChars plain members ++ rest) := by
  cases members with
  | nil => exact Text.endsSort_cons (by decide) _
  | cons member members => exact Text.endsSort_cons (by decide) _

theorem bool_inj {value other : Bool}
    (same : boolChars value ++ rest = boolChars other ++ otherRest) :
    value = other ∧ rest = otherRest := by
  cases value <;> cases other <;> simp_all [boolChars]

theorem int_inj {value other : Int64} (ends : EndsSort InNumber rest)
    (otherEnds : EndsSort InNumber otherRest)
    (same : Decimal.intChars value.toInt ++ rest = Decimal.intChars other.toInt ++ otherRest) :
    value = other ∧ rest = otherRest := by
  obtain ⟨sameChars, sameRests⟩ :=
    Text.cut_unique (Decimal.inNumber_canonical (Decimal.canonical_intChars value.toInt))
      (Decimal.inNumber_canonical (Decimal.canonical_intChars other.toInt)) ends otherEnds same
  exact ⟨Decimal.ofInt_inj (congrArg String.ofList sameChars), sameRests⟩

mutual

/-- A document is read off a text in one way, if the rest cannot continue a number. -/
theorem chars_inj {left right : Json} {rest otherRest : List Char}
    (floatless : left.floatless = true) (otherFloatless : right.floatless = true)
    (ends : EndsSort InNumber rest) (otherEnds : EndsSort InNumber otherRest)
    (same : left.chars plain ++ rest = right.chars plain ++ otherRest) :
    left = right ∧ rest = otherRest := by
  match left, right, sameKind_of_chars plain floatless otherFloatless same with
  | _, _, .null => exact ⟨rfl, List.append_cancel_left same⟩
  | _, _, .bool _ _ =>
      obtain ⟨rfl, sameRests⟩ := bool_inj same
      exact ⟨rfl, sameRests⟩
  | _, _, .int _ _ =>
      obtain ⟨rfl, sameRests⟩ := int_inj ends otherEnds same
      exact ⟨rfl, sameRests⟩
  | _, _, .float _ _ => cases floatless
  | _, _, .string _ _ =>
      obtain ⟨sameText, sameRests⟩ := Text.quoted_inj plain same
      obtain rfl := String.toList_inj.1 sameText
      exact ⟨rfl, sameRests⟩
  | _, _, .array lefts rights =>
      obtain ⟨rfl, sameRests⟩ := items_inj floatless otherFloatless
        (itemsChars_of_array plain floatless otherFloatless same)
      exact ⟨rfl, sameRests⟩
  | _, _, .object lefts rights =>
      obtain ⟨rfl, sameRests⟩ := members_inj floatless otherFloatless
        (membersChars_of_object plain same)
      exact ⟨rfl, sameRests⟩

/-- The items of a list are read off up to its closing bracket. -/
theorem items_inj {lefts rights : List Json} {rest otherRest : List Char}
    (floatless : itemsFloatless lefts = true) (otherFloatless : itemsFloatless rights = true)
    (same : itemsChars plain lefts ++ rest = itemsChars plain rights ++ otherRest) :
    lefts = rights ∧ rest = otherRest := by
  match lefts, rights with
  | [], [] => exact ⟨rfl, (List.cons.inj same).2⟩
  | [], right :: rights => cases same
  | left :: lefts, [] => cases same
  | left :: lefts, right :: rights =>
      rw [itemsFloatless, Bool.and_eq_true] at floatless otherFloatless
      simp only [itemsChars, List.cons_append, List.append_assoc, List.cons.injEq, true_and] at same
      obtain ⟨rfl, behind⟩ := chars_inj floatless.1 otherFloatless.1
        (endsSort_itemsChars plain lefts rest) (endsSort_itemsChars plain rights otherRest) same
      obtain ⟨rfl, sameRests⟩ := items_inj floatless.2 otherFloatless.2 behind
      exact ⟨rfl, sameRests⟩

theorem members_inj {lefts rights : List (String × Json)} {rest otherRest : List Char}
    (floatless : membersFloatless lefts = true) (otherFloatless : membersFloatless rights = true)
    (same : membersChars plain lefts ++ rest = membersChars plain rights ++ otherRest) :
    lefts = rights ∧ rest = otherRest := by
  match lefts, rights with
  | [], [] => exact ⟨rfl, (List.cons.inj same).2⟩
  | [], right :: rights => cases same
  | left :: lefts, [] => cases same
  | (key, left) :: lefts, (otherKey, right) :: rights =>
      rw [membersFloatless, Bool.and_eq_true] at floatless otherFloatless
      simp only [membersChars, List.cons_append, List.append_assoc, List.cons.injEq,
        true_and] at same
      obtain ⟨sameKey, sameValues⟩ := Text.quoted_inj plain same
      obtain rfl := String.toList_inj.1 sameKey
      obtain ⟨rfl, behind⟩ := chars_inj floatless.1 otherFloatless.1
        (endsSort_membersChars plain lefts rest) (endsSort_membersChars plain rights otherRest)
        (List.cons.inj sameValues).2
      obtain ⟨rfl, sameRests⟩ := members_inj floatless.2 otherFloatless.2 behind
      exact ⟨rfl, sameRests⟩

end

end

mutual

/-- Without floating point numbers, equality compares the documents as they are. -/
theorem equals_iff {left right : Json} (floatless : left.floatless = true) :
    left.equals right = true ↔ left = right := by
  match left with
  | .null => cases right <;> simp [equals]
  | .bool value => cases right <;> simp [equals]
  | .int value => cases right <;> simp [equals]
  | .float value => cases floatless
  | .string value => cases right <;> simp [equals]
  | .array lefts =>
      cases right with
      | array rights => rw [equals, array.injEq, itemsEqual_iff floatless]
      | _ => simp [equals]
  | .object lefts =>
      cases right with
      | object rights => rw [equals, object.injEq, membersEqual_iff floatless]
      | _ => simp [equals]

theorem itemsEqual_iff {lefts rights : List Json} (floatless : itemsFloatless lefts = true) :
    itemsEqual lefts rights = true ↔ lefts = rights := by
  match lefts, rights with
  | [], [] => simp [itemsEqual]
  | [], right :: rights => simp [itemsEqual]
  | left :: lefts, [] => simp [itemsEqual]
  | left :: lefts, right :: rights =>
      rw [itemsFloatless, Bool.and_eq_true] at floatless
      rw [itemsEqual, Bool.and_eq_true, equals_iff floatless.1, itemsEqual_iff floatless.2,
        List.cons.injEq]

theorem membersEqual_iff {lefts rights : List (String × Json)}
    (floatless : membersFloatless lefts = true) :
    membersEqual lefts rights = true ↔ lefts = rights := by
  match lefts, rights with
  | [], [] => simp [membersEqual]
  | [], right :: rights => simp [membersEqual]
  | left :: lefts, [] => simp [membersEqual]
  | (key, left) :: lefts, (otherKey, right) :: rights =>
      rw [membersFloatless, Bool.and_eq_true] at floatless
      rw [membersEqual, Bool.and_eq_true, Bool.and_eq_true, beq_iff_eq, equals_iff floatless.1,
        membersEqual_iff floatless.2, List.cons.injEq, Prod.mk.injEq]

end

/-- Documents without floating point numbers are written alike exactly if they are equal, and only
the same document is equal to one. -/
theorem texts_alike_iff_equal (plain : Char → Bool) {left right : Json}
    (floatless : left.floatless = true) (otherFloatless : right.floatless = true) :
    (String.ofList (left.chars plain) = String.ofList (right.chars plain) ↔
      left.equals right = true) ∧
    (left.equals right = true ↔ left = right) := by
  refine ⟨?_, equals_iff floatless⟩
  rw [equals_iff floatless]
  constructor
  · intro same
    have sameChars := congrArg (· ++ []) (String.ofList_inj.1 same)
    exact (chars_inj plain floatless otherFloatless (Text.endsSort_nil _) (Text.endsSort_nil _)
      sameChars).1
  · intro same
    rw [same]

theorem punctuation_in_texts_kept_apart :
    floatless (object [("k\":[\"", array [string "\",\"\n", array []]), ("\x7b", int (-1))]) =
      true ∧
    floatless (object [("k", array [string "", string "\n", array [], object []])]) = true ∧
    text (object [("k\":[\"", array [string "\",\"\n", array []]), ("\x7b", int (-1))]) ≠
      text (object [("k", array [string "", string "\n", array [], object []])]) := by
  refine ⟨rfl, rfl, ?_⟩
  intro same
  have equal := (texts_alike_iff_equal Text.isPlain rfl rfl).1.1 same
  revert equal
  decide

end NativeBinding.Json
