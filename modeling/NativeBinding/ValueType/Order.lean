import NativeBinding.ValueType

/-!
# The order of types is total

Every type has a key, a list of numbers that starts with the rank of its kind. Comparing types is
comparing their keys, and distinct types have distinct keys.
-/

set_option autoImplicit false

namespace NativeBinding.ValueType

/-- Array ranks down to the innermost element, its rank, and the indices of its name. -/
def orderKey : ValueType → List Nat
  | array element => 11 :: orderKey element
  | struct name => [12, name.package.index, name.name.index]
  | connector name => [13, name.package.index, name.name.index]
  | type => [type.rank]

private theorem compare_names (rank : Nat) (left right : TypeName) :
    compare left right =
      compare [rank, left.package.index, left.name.index]
        [rank, right.package.index, right.name.index] := by
  simp only [List.compare_cons_cons, Std.ReflCmp.compare_self, Ordering.then_eq, Ordering.eq_then]
  rfl

theorem order_eq_compare_orderKey (left right : ValueType) :
    order left right = compare left.orderKey right.orderKey := by
  induction left generalizing right with
  | array element ih =>
      cases right with
      | array other => simpa [order, orderKey, List.compare_cons_cons] using ih other
      | _ => rfl
  | struct name =>
      cases right with
      | struct other => exact compare_names 12 name other
      | _ => rfl
  | connector name =>
      cases right with
      | connector other => exact compare_names 13 name other
      | _ => rfl
  | _ => cases right <;> rfl

theorem orderKey_injective {left right : ValueType} (same : left.orderKey = right.orderKey) :
    left = right := by
  induction left generalizing right with
  | array element ih =>
      cases right with
      | array other => exact congrArg array (ih (List.cons.inj same).2)
      | _ => simp [orderKey, rank] at same
  | struct name =>
      obtain ⟨⟨package⟩, ⟨plain⟩⟩ := name
      cases right <;> simp_all [orderKey, rank]
  | connector name =>
      obtain ⟨⟨package⟩, ⟨plain⟩⟩ := name
      cases right <;> simp_all [orderKey, rank]
  | _ => cases right <;> simp [orderKey, rank] at same ⊢

private theorem order_eq_compareOn : order = compareOn orderKey :=
  funext fun left => funext fun right => order_eq_compare_orderKey left right

instance : Std.TransCmp order :=
  order_eq_compareOn ▸ inferInstanceAs (Std.TransCmp (compareOn orderKey))

instance : Std.TransOrd ValueType := inferInstanceAs (Std.TransCmp order)

instance : Std.LawfulEqOrd ValueType where
  toReflCmp := inferInstanceAs (Std.ReflCmp order)
  eq_of_compare same := orderKey_injective
    (Std.LawfulEqCmp.eq_of_compare ((order_eq_compare_orderKey _ _).symm.trans same))

end NativeBinding.ValueType
