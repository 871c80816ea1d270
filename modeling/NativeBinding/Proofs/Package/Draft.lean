import NativeBinding.Callable.Package

/-!
# Packages put together by hand

A draft is a package that starts empty and is edited entry by entry with declarations of its own.
Every edit keeps the package filed: what stands under a kind and a member is a declaration of that
kind and member, in that package.
-/

set_option autoImplicit false

namespace NativeBinding.Package

/-- Every entry stands under its own kind and member and belongs to the package. -/
def Filed (package : Package) : Prop :=
  ∀ kind member declaration, package.find? kind member = some declaration →
    declaration.kind = kind ∧ declaration.member = member ∧ declaration.package = package.name

theorem filed_named (name : Name) : (named name).Filed := by
  intro kind member declaration found
  simp at found

theorem filed_insert {package : Package} (filed : package.Filed) {declaration : Declaration}
    (own : declaration.package = package.name) : (package.insert declaration).1.Filed := by
  intro kind member found lookup
  rw [find?_insert] at lookup
  rw [name_insert]
  split at lookup
  · next same =>
      cases lookup
      exact ⟨same.1.symm, same.2.symm, own⟩
  · exact filed kind member found lookup

theorem filed_erase {package : Package} (filed : package.Filed) (kind : CallableKind)
    (member : Member) : (package.erase kind member).1.Filed := by
  intro asked other found lookup
  rw [find?_erase] at lookup
  rw [name_erase]
  split at lookup
  · cases lookup
  · exact filed asked other found lookup

theorem find_own_entry {package : Package} (filed : package.Filed) {declaration : Declaration}
    (listed : declaration ∈ package.declarations) :
    package.find? declaration.kind declaration.member = some declaration ∧
      declaration.package = package.name := by
  obtain ⟨kind, member, found⟩ := (mem_declarations_iff package declaration).1 listed
  obtain ⟨sameKind, sameMember, own⟩ := filed kind member declaration found
  rw [sameKind, sameMember]
  exact ⟨found, own⟩

inductive Edit where
  | insert (declaration : Declaration)
  | erase (kind : CallableKind) (member : Member)
  deriving DecidableEq, Repr

/-- Only declarations of the package itself may be put into it. -/
def Edit.Within (name : Name) : Edit → Prop
  | .insert declaration => declaration.package = name
  | .erase _ _ => True

instance (name : Name) (edit : Edit) : Decidable (edit.Within name) :=
  match edit with
  | .insert declaration => inferInstanceAs (Decidable (declaration.package = name))
  | .erase _ _ => inferInstanceAs (Decidable True)

def edit (package : Package) : Edit → Package
  | .insert declaration => (package.insert declaration).1
  | .erase kind member => (package.erase kind member).1

def editAll (package : Package) (edits : List Edit) : Package := edits.foldl edit package

@[simp]
theorem name_edit (package : Package) (edit : Edit) :
    (package.edit edit).name = package.name := by
  cases edit with
  | insert declaration => exact name_insert package declaration
  | erase kind member => exact name_erase package kind member

theorem name_editAll (package : Package) (edits : List Edit) :
    (package.editAll edits).name = package.name := by
  unfold editAll
  induction edits generalizing package with
  | nil => rfl
  | cons edit rest ih =>
      rw [List.foldl_cons, ih]
      exact name_edit package edit

theorem filed_edit {package : Package} (filed : package.Filed) {edit : Edit}
    (within : edit.Within package.name) : (package.edit edit).Filed := by
  cases edit with
  | insert declaration => exact filed_insert filed within
  | erase kind member => exact filed_erase filed kind member

theorem filed_editAll {package : Package} (filed : package.Filed) {edits : List Edit}
    (within : ∀ edit ∈ edits, edit.Within package.name) : (package.editAll edits).Filed := by
  unfold editAll
  induction edits generalizing package with
  | nil => exact filed
  | cons edit rest ih =>
      have first := filed_edit filed (within edit List.mem_cons_self)
      have later : ∀ other ∈ rest, other.Within (package.edit edit).name := by
        intro other member
        rw [name_edit]
        exact within other (List.mem_cons_of_mem _ member)
      exact ih first later

/-- A package by its name and the edits that made it. -/
structure Draft where
  name : Name
  edits : List Edit
  within : ∀ edit ∈ edits, edit.Within name

namespace Draft

def package (draft : Draft) : Package := (named draft.name).editAll draft.edits

@[simp]
theorem name_package (draft : Draft) : draft.package.name = draft.name :=
  name_editAll (named draft.name) draft.edits

theorem filed_package (draft : Draft) : draft.package.Filed :=
  filed_editAll (filed_named draft.name) draft.within

end Draft

end NativeBinding.Package
