import Mathlib.Data.List.Induction
import Mathlib.Data.List.Perm.Basic
import NativeBinding.Proofs.LastWrite
import NativeBinding.Proofs.Package.Draft
import NativeBinding.Proofs.ValueType.Precedence

/-!
# What a package lists

A package holds the declarations that were put in and that no later edit of their kind and member
has replaced or taken out. It lists them kind by kind in the order of their members, each member
once. What order the edits came in, and what was replaced on the way, does not show: histories that
leave the same declarations leave the same package.
-/

set_option autoImplicit false

namespace NativeBinding

namespace Member

/-- Members without a receiver come first, then the receiver decides, and within one receiver the
name. -/
def Precedes (left right : Member) : Prop :=
  match left.receiver, right.receiver with
  | none, none => left.name.index < right.name.index
  | none, some _ => True
  | some _, none => False
  | some leftType, some rightType =>
      leftType.Precedes rightType ∨
        leftType = rightType ∧ left.name.index < right.name.index

theorem precedes_iff (left right : Member) :
    left.Precedes right ↔ compare left right = .lt := by
  obtain ⟨leftReceiver, leftName⟩ := left
  obtain ⟨rightReceiver, rightName⟩ := right
  have names : compare leftName rightName = .lt ↔ leftName.index < rightName.index :=
    Nat.compare_eq_lt
  change _ ↔ (compare leftReceiver rightReceiver).then (compare leftName rightName) = .lt
  rw [Ordering.then_eq_lt, names]
  cases leftReceiver with
  | none =>
      cases rightReceiver with
      | none => simp [Precedes, Std.ReflCmp.compare_self]
      | some rightType =>
          have first : compare none (some rightType) = .lt := rfl
          simp [Precedes, first]
  | some leftType =>
      cases rightReceiver with
      | none =>
          have last : compare (some leftType) none = .gt := rfl
          simp [Precedes, last]
      | some rightType =>
          have types : compare (some leftType) (some rightType) = compare leftType rightType := rfl
          rw [types, Std.LawfulEqCmp.compare_eq_iff_eq, ← leftType.precedes_iff rightType]
          rfl

end Member

namespace Package

/-- Whether an edit is about this kind and member. -/
def Edit.Touches (kind : CallableKind) (member : Member) : Edit → Prop
  | .insert declaration => declaration.kind = kind ∧ declaration.member = member
  | .erase gone name => gone = kind ∧ name = member

/-- The declaration was put in, and nothing after that was about its kind and member. -/
def Leaves (edits : List Edit) (declaration : Declaration) : Prop :=
  ∃ earlier later, edits = earlier ++ .insert declaration :: later ∧
    ∀ edit ∈ later, ¬edit.Touches declaration.kind declaration.member

/-- What an edit gives back: the declaration that it replaces or removes. -/
def displaced (package : Package) : Edit → Option Declaration
  | .insert declaration => (package.insert declaration).2
  | .erase kind member => (package.erase kind member).2

section

variable {package : Package} {kind : CallableKind} {member : Member} {declaration : Declaration}

theorem find_edit_iff (edit : Edit) :
    (package.edit edit).find? kind member = some declaration ↔
      (edit = .insert declaration ∧ declaration.kind = kind ∧ declaration.member = member) ∨
        (package.find? kind member = some declaration ∧ ¬edit.Touches kind member) := by
  cases edit with
  | insert new =>
      rw [Package.edit, find?_insert]
      split
      · next here =>
          obtain ⟨rfl, rfl⟩ := here
          simp only [Option.some.injEq, Edit.insert.injEq, Edit.Touches]
          grind
      · next elsewhere =>
          simp only [Edit.insert.injEq, Edit.Touches]
          grind
  | erase gone name =>
      rw [Package.edit, find?_erase]
      simp only [Edit.Touches]
      split
      · next here =>
          obtain ⟨rfl, rfl⟩ := here
          simp
      · next elsewhere => grind

theorem leaves_snoc (edits : List Edit) (edit : Edit) :
    Leaves (edits ++ [edit]) declaration ↔
      edit = .insert declaration ∨
        (Leaves edits declaration ∧ ¬edit.Touches declaration.kind declaration.member) :=
  made_snoc_iff (Edit.insert declaration) (Edit.Touches declaration.kind declaration.member) edits
    edit

theorem find_editAll_iff (name : Name) (edits : List Edit) :
    ((named name).editAll edits).find? kind member = some declaration ↔
      declaration.kind = kind ∧ declaration.member = member ∧ Leaves edits declaration := by
  induction edits using List.reverseRecOn with
  | nil => simp [editAll, Leaves]
  | append_singleton edits edit ih =>
      have last : (named name).editAll (edits ++ [edit]) = ((named name).editAll edits).edit edit :=
        List.foldl_append
      rw [last, find_edit_iff, ih, leaves_snoc]
      constructor
      · intro held
        rcases held with ⟨made, rfl, rfl⟩ | ⟨⟨rfl, rfl, left⟩, elsewhere⟩
        · exact ⟨rfl, rfl, .inl made⟩
        · exact ⟨rfl, rfl, .inr ⟨left, elsewhere⟩⟩
      · intro left
        obtain ⟨rfl, rfl, made | ⟨left, elsewhere⟩⟩ := left
        · exact .inl ⟨made, rfl, rfl⟩
        · exact .inr ⟨⟨rfl, rfl, left⟩, elsewhere⟩

end

namespace Draft

variable (draft : Draft)

/-- The declaration is one of those that the history of the draft leaves. -/
def Leaves (draft : Draft) (declaration : Declaration) : Prop :=
  Package.Leaves draft.edits declaration

theorem find_package_iff {kind : CallableKind} {member : Member} {declaration : Declaration} :
    draft.package.find? kind member = some declaration ↔
      declaration.kind = kind ∧ declaration.member = member ∧ draft.Leaves declaration :=
  find_editAll_iff draft.name draft.edits

theorem mem_values_iff (kind : CallableKind) (declaration : Declaration) :
    declaration ∈ (draft.package.members kind).values ↔
      declaration.kind = kind ∧ draft.Leaves declaration := by
  rw [OrderedMap.mem_values_iff]
  constructor
  · intro listed
    obtain ⟨member, found⟩ := listed
    obtain ⟨own, -, left⟩ := draft.find_package_iff.1 found
    exact ⟨own, left⟩
  · intro left
    obtain ⟨own, left⟩ := left
    exact ⟨declaration.member, draft.find_package_iff.2 ⟨own, rfl, left⟩⟩

/-- A listing follows the keys, and each declaration stands under its own member. -/
theorem values_in_member_order (kind : CallableKind) :
    ((draft.package.members kind).values.map Declaration.member).Pairwise Member.Precedes := by
  unfold OrderedMap.values
  rw [List.map_map, List.pairwise_map]
  refine (draft.package.members kind).ascending.imp_of_mem ?_
  intro ⟨member, declaration⟩ ⟨other, held⟩ first second before
  have own {key : Member} {entry : Declaration}
      (listed : (key, entry) ∈ (draft.package.members kind).entries) : entry.member = key :=
    (draft.find_package_iff.1 ((OrderedMap.mem_entries_iff _).1 listed)).2.1
  change declaration.member.Precedes held.member
  rw [own first, own second, Member.precedes_iff]
  exact before

theorem displaced_iff (edit : Edit) (declaration : Declaration) :
    draft.package.displaced edit = some declaration ↔
      edit.Touches declaration.kind declaration.member ∧ draft.Leaves declaration := by
  cases edit with
  | insert new =>
      refine draft.find_package_iff.trans ?_
      simp only [Edit.Touches, and_assoc, eq_comm]
  | erase gone name =>
      refine draft.find_package_iff.trans ?_
      simp only [Edit.Touches, and_assoc, eq_comm]

theorem package_eq_iff (other : Draft) :
    draft.package = other.package ↔
      draft.name = other.name ∧
        ∀ declaration, draft.Leaves declaration ↔ other.Leaves declaration := by
  constructor
  · intro same
    constructor
    · rw [← draft.name_package, same, other.name_package]
    · intro declaration
      have left := draft.mem_values_iff declaration.kind declaration
      have right := other.mem_values_iff declaration.kind declaration
      rw [same, right] at left
      simpa using left.symm
  · intro same
    obtain ⟨sameName, sameLeft⟩ := same
    apply ext_find?
    · rw [draft.name_package, sameName, other.name_package]
    · intro kind member
      apply Option.ext
      intro declaration
      rw [draft.find_package_iff, other.find_package_iff, sameLeft]

end Draft

/-- Visibility splits the functions in two, and either part keeps the order. -/
theorem functions_by_visibility (package : Package) :
    package.publicFunctions.Sublist package.functions.values ∧
      package.privateFunctions.Sublist package.functions.values ∧
      package.publicFunctions.Disjoint package.privateFunctions ∧
      (package.publicFunctions ++ package.privateFunctions).Perm package.functions.values := by
  refine ⟨List.filter_sublist, List.filter_sublist, ?_, ?_⟩
  · intro declaration visible hidden
    have shown := of_decide_eq_true (List.mem_filter.1 visible).2
    have kept := of_decide_eq_true (List.mem_filter.1 hidden).2
    rw [shown] at kept
    cases kept
  · have others : package.privateFunctions = package.functions.values.filter
        fun declaration => !decide (declaration.visibility = .visible) := by
      apply List.filter_congr
      intro declaration listed
      cases declaration.visibility <;> rfl
    rw [others]
    exact List.filter_append_perm _ _

/-- A package is what its history leaves. Each kind lists what is left of it, member after member,
and an edit gives back what was left under its own kind and member. The functions split into the
visible and the hidden ones, the size counts both listings, and the packages of two histories are
equal exactly if they have one name and the same declarations are left. -/
theorem listings_tell_history (draft : Draft) :
    let package := draft.package
    (∀ kind,
      ((package.members kind).values.map Declaration.member).Pairwise Member.Precedes ∧
        ∀ declaration, declaration ∈ (package.members kind).values ↔
          declaration.kind = kind ∧ draft.Leaves declaration) ∧
      (∀ edit declaration, package.displaced edit = some declaration ↔
        edit.Touches declaration.kind declaration.member ∧ draft.Leaves declaration) ∧
      package.publicFunctions.Sublist package.functions.values ∧
      package.privateFunctions.Sublist package.functions.values ∧
      package.publicFunctions.Disjoint package.privateFunctions ∧
      (package.publicFunctions ++ package.privateFunctions).Perm package.functions.values ∧
      package.size = package.functions.values.length + package.actions.values.length ∧
      ∀ other : Draft, package = other.package ↔
        draft.name = other.name ∧
          ∀ declaration, draft.Leaves declaration ↔ other.Leaves declaration := by
  intro package
  obtain ⟨visible, hidden, apart, whole⟩ := package.functions_by_visibility
  refine ⟨?_, draft.displaced_iff, visible, hidden, apart, whole, ?_, draft.package_eq_iff⟩
  · intro kind
    exact ⟨draft.values_in_member_order kind, draft.mem_values_iff kind⟩
  · unfold size OrderedMap.values OrderedMap.size
    rw [List.length_map, List.length_map]

end Package

end NativeBinding
