import Mathlib.Order.Defs.Unbundled
import NativeBinding.ValueType.Order

/-!
# Which type comes before which

Types of different kinds come in the order of the kinds. Two arrays come as their elements do, at
any depth, and two declared types of one kind by package and then by name, as these were interned.
That is a strict total order, and comparing types decides it.
-/

set_option autoImplicit false

namespace NativeBinding

namespace TypeName

/-- The package decides, and within one package the name. -/
def Precedes (left right : TypeName) : Prop :=
  left.package.index < right.package.index ∨
    left.package = right.package ∧ left.name.index < right.name.index

theorem precedes_iff (left right : TypeName) :
    left.Precedes right ↔ compare left right = .lt := by
  have packages : compare left.package right.package = .eq ↔ left.package = right.package :=
    Std.LawfulEqCmp.compare_eq_iff_eq
  change _ ↔ (compare left.package right.package).then (compare left.name right.name) = .lt
  rw [Ordering.then_eq_lt, packages]
  unfold Precedes
  rw [← Nat.compare_eq_lt, ← Nat.compare_eq_lt]
  rfl

end TypeName

namespace ValueType

inductive Precedes : ValueType → ValueType → Prop where
  | kind {left right : ValueType} (lower : left.rank < right.rank) : Precedes left right
  | array {left right : ValueType} (elements : Precedes left right) :
      Precedes (array left) (array right)
  | struct {left right : TypeName} (names : left.Precedes right) :
      Precedes (struct left) (struct right)
  | connector {left right : TypeName} (names : left.Precedes right) :
      Precedes (connector left) (connector right)

/-- How types of one kind are told apart: by their elements or by their names. -/
def ContentsPrecede : ValueType → ValueType → Prop
  | array left, array right => left.Precedes right
  | struct left, struct right => left.Precedes right
  | connector left, connector right => left.Precedes right
  | _, _ => False

theorem precedes_by_kind_or_contents (left right : ValueType) :
    left.Precedes right ↔ left.rank < right.rank ∨ ContentsPrecede left right := by
  constructor
  · intro precedes
    cases precedes with
    | kind lower => exact .inl lower
    | array elements => exact .inr elements
    | struct names => exact .inr names
    | connector names => exact .inr names
  · intro either
    rcases either with lower | contents
    · exact .kind lower
    · cases left <;> cases right <;>
        first
          | exact .array contents
          | exact .struct contents
          | exact .connector contents
          | exact contents.elim

/-- Between types of two kinds, or of one kind without contents, the rank alone decides. -/
theorem precedes_by_rank {left right : ValueType} (apart : ¬ContentsPrecede left right)
    (byRank : compare left right = compare left.rank right.rank) :
    left.Precedes right ↔ compare left right = .lt := by
  rw [precedes_by_kind_or_contents, byRank, Nat.compare_eq_lt]
  exact or_iff_left apart

theorem precedes_by_contents (left right : ValueType) (same : left.rank = right.rank) :
    left.Precedes right ↔ ContentsPrecede left right := by
  rw [precedes_by_kind_or_contents, same]
  exact or_iff_right (Nat.lt_irrefl _)

/-- Comparing decides which type comes first. -/
theorem precedes_iff (left right : ValueType) :
    left.Precedes right ↔ compare left right = .lt := by
  induction left generalizing right with
  | array element ih =>
      cases right with
      | array other =>
          rw [precedes_by_contents (array element) (array other) rfl]
          exact ih other
      | _ => exact precedes_by_rank id rfl
  | struct name =>
      cases right with
      | struct other =>
          rw [precedes_by_contents (struct name) (struct other) rfl]
          exact name.precedes_iff other
      | _ => exact precedes_by_rank id rfl
  | connector name =>
      cases right with
      | connector other =>
          rw [precedes_by_contents (connector name) (connector other) rfl]
          exact name.precedes_iff other
      | _ => exact precedes_by_rank id rfl
  | _ => cases right <;> exact precedes_by_rank id rfl

instance : IsStrictTotalOrder ValueType Precedes where
  irrefl := by
    intro type precedes
    simp only [precedes_iff, Std.ReflCmp.compare_self, reduceCtorEq] at precedes
  trans := by
    intro first second third before after
    rw [precedes_iff] at before after ⊢
    exact Std.TransCmp.lt_trans before after
  trichotomous := by
    intro left right notBefore notAfter
    rw [precedes_iff] at notBefore notAfter
    cases order : compare left right with
    | lt => exact absurd order notBefore
    | eq => exact Std.LawfulEqCmp.eq_of_compare order
    | gt => exact absurd (Std.OrientedCmp.lt_of_gt order) notAfter

end ValueType

end NativeBinding
