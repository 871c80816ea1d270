import NativeBinding.Value

/-!
# The instances behind struct and connector values

The heap keeps the fields of every instance under its address. All references to one address see
the same fields, and setting a field touches one field of one instance.
-/

set_option autoImplicit false

namespace NativeBinding

/-- Fields in the order of their names. -/
abbrev Fields := OrderedMap Name Value

structure Heap where
  /-- The next address that is given out. -/
  next : Nat
  /-- An instance that was never written has no entry and no fields. -/
  written : OrderedMap Nat Fields

namespace Heap

def empty : Heap := ⟨0, .empty⟩

instance : Inhabited Heap := ⟨empty⟩

def allocate (heap : Heap) (type : TypeName) : Heap × InstanceRef :=
  ({ heap with next := heap.next + 1 }, ⟨heap.next, type⟩)

def fields (heap : Heap) (ref : InstanceRef) : Fields :=
  (heap.written.find? ref.address).getD .empty

def field? (heap : Heap) (ref : InstanceRef) (name : Name) : Option Value :=
  (heap.fields ref).find? name

def setField (heap : Heap) (ref : InstanceRef) (name : Name) (value : Value) : Heap :=
  { heap with written := heap.written.insert ref.address ((heap.fields ref).insert name value) }

theorem field?_setField (heap : Heap) (ref other : InstanceRef) (name asked : Name)
    (value : Value) :
    (heap.setField ref name value).field? other asked =
      if other.address = ref.address ∧ asked = name then some value
      else heap.field? other asked := by
  by_cases same : other.address = ref.address
  · by_cases field : asked = name <;> simp [field?, fields, setField, same, field]
  · simp [field?, fields, setField, same]

/-- Whether two instances have one type and equal fields. -/
def sameContents (heap : Heap) (left right : InstanceRef) : Bool :=
  let lefts := (heap.fields left).entries
  let rights := (heap.fields right).entries
  left.type == right.type && lefts.length == rights.length &&
    (lefts.zip rights).all fun (left, right) => left.1 == right.1 && left.2.equals right.2

end Heap

end NativeBinding
