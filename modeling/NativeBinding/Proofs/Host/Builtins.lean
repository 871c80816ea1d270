import NativeBinding.Builtin.Natives
import NativeBinding.Proofs.Host.Dispatch

/-!
# What a call of a builtin does

The builtins look at the shape of their arguments again and do nothing on a shape that they do not
expect. After the checks of the dispatcher no such shape is left, and what the builtins answer is
always what they declare. So where nothing else is bound, a call fails and changes nothing, or
reads a property, or prints its text, or stores its bytes in a response.
-/

set_option autoImplicit false

namespace NativeBinding

section

variable {value : Value}

theorem conforms_string (conforms : value.conformsTo .string = true) :
    ∃ text, value = .string text := by
  cases value <;> simp_all [Value.conformsTo, Value.type]

theorem conforms_blob (conforms : value.conformsTo .blob = true) :
    ∃ bytes, value = .blob bytes := by
  cases value <;> simp_all [Value.conformsTo, Value.type]

theorem conforms_struct {type : TypeName} (conforms : value.conformsTo (.struct type) = true) :
    ∃ ref, value = .struct ref ∧ ref.type = type := by
  cases value <;> simp_all [Value.conformsTo, Value.type]

end

theorem conform_singleton {type : ValueType} {values : List Value}
    (conform : Conform [type] values) :
    ∃ value, values = [value] ∧ value.conformsTo type = true := by
  cases conform with
  | cons conforms rest =>
      cases rest
      exact ⟨_, rfl, conforms⟩

namespace Heap

variable (heap : Heap) {payload contentType field : Name} {response ref : InstanceRef}
  (bytes : List UInt8)

/-- The body of a response: its bytes and how they are to be read. -/
def storeBody (heap : Heap) (payload contentType : Name) (response : InstanceRef)
    (bytes : List UInt8) : Heap :=
  (heap.setField response payload (.blob bytes)).setField response contentType
    (.string Builtin.octetStream)

theorem payload_storeBody (names : payload ≠ contentType)
    (here : ref.address = response.address) :
    (heap.storeBody payload contentType response bytes).field? ref payload =
      some (.blob bytes) := by
  unfold storeBody
  rw [field?_setField, if_neg fun both => names both.2, field?_setField, if_pos ⟨here, rfl⟩]

theorem contentType_storeBody (here : ref.address = response.address) :
    (heap.storeBody payload contentType response bytes).field? ref contentType =
      some (.string Builtin.octetStream) := by
  unfold storeBody
  rw [field?_setField, if_pos ⟨here, rfl⟩]

theorem other_field_storeBody (notPayload : field ≠ payload)
    (notContentType : field ≠ contentType) :
    (heap.storeBody payload contentType response bytes).field? ref field =
      heap.field? ref field := by
  unfold storeBody
  rw [field?_setField, if_neg fun both => notContentType both.2, field?_setField,
    if_neg fun both => notPayload both.2]

theorem other_instance_storeBody (elsewhere : ref.address ≠ response.address) :
    (heap.storeBody payload contentType response bytes).field? ref field =
      heap.field? ref field := by
  unfold storeBody
  rw [field?_setField, if_neg fun both => elsewhere both.1, field?_setField,
    if_neg fun both => elsewhere both.1]

end Heap

namespace Builtin

variable (name : String → Name)

def getPropertySignature : Signature :=
  ⟨.function, name "runtime", ⟨none, name "getProperty"⟩, [.string]⟩

def printSignature : Signature := ⟨.function, name "io", ⟨none, name "print"⟩, [.string]⟩

def responseType : TypeName := ⟨name "http", name "Response"⟩

def setBinaryPayloadSignature : Signature :=
  ⟨.function, name "http", ⟨some (responseType name), name "setBinaryPayload"⟩, [.blob]⟩

/-- What one call can come to where only builtins are bound. -/
inductive Effect (context : Context) :
    Signature → List Value → Context × Except DispatchError (List Value) → Prop where
  | failed (signature : Signature) (args : List Value) (error : DispatchError) :
      Effect context signature args (context, .error error)
  | read (key : String) :
      Effect context (getPropertySignature name) [.string key]
        (context, .ok [.string ((context.properties.find? key).getD "")])
  | printed (text : String) :
      Effect context (printSignature name) [.string text] (context.print text, .ok [])
  | stored (response : InstanceRef) (bytes : List UInt8)
      (typed : response.type = responseType name) :
      Effect context (setBinaryPayloadSignature name) [.struct response, .blob bytes]
        ({ context with
            world.heap := context.world.heap.storeBody (name "payload") (name "contentType")
              response bytes }, .ok [])

/-- On arguments that conform, a builtin has its effect and answers what it declares. -/
theorem native_effect {binding : Binding Context} (builtin : binding ∈ natives name)
    (context : Context) {args : List Value} (conform : Conform binding.declaration.argTypes args) :
    Effect name context binding.declaration.signature args
        ((binding.native context args).1, .ok (binding.native context args).2) ∧
      Conform binding.declaration.returns (binding.native context args).2 := by
  simp only [natives, List.mem_cons, List.not_mem_nil, or_false] at builtin
  rcases builtin with rfl | rfl | rfl
  · obtain ⟨value, rfl, conforms⟩ := conform_singleton conform
    obtain ⟨key, rfl⟩ := conforms_string conforms
    exact ⟨.read key, .cons rfl .nil⟩
  · obtain ⟨value, rfl, conforms⟩ := conform_singleton conform
    obtain ⟨text, rfl⟩ := conforms_string conforms
    exact ⟨.printed text, .nil⟩
  · cases conform with
    | cons first rest =>
        obtain ⟨response, rfl, typed⟩ := conforms_struct first
        obtain ⟨value, rfl, conforms⟩ := conform_singleton rest
        obtain ⟨bytes, rfl⟩ := conforms_blob conforms
        exact ⟨.stored response bytes typed, .nil⟩

/-- Whatever is bound is a builtin under its own signature. -/
def Bound (table : NativeTable Context) : Prop :=
  ∀ signature binding, table.bindings.find? signature = some binding →
    binding ∈ natives name ∧ signature = binding.declaration.signature

theorem invoke_effect {table : NativeTable Context} (bound : Bound name table)
    (context : Context) (signature : Signature) (args : List Value) :
    Effect name context signature args (table.invoke context signature args) := by
  have called := table.invoke_called context signature args
  generalize table.invoke context signature args = result at called
  cases called with
  | unbound absent => exact .failed signature args _
  | refused binding error held because => exact .failed signature args error
  | rejected binding error held conform because =>
      obtain ⟨builtin, -⟩ := bound signature binding held
      have answer := (native_effect name builtin context conform).2
      rw [NativeTable.reject_none.2 answer] at because
      cases because
  | answered binding held conform answer =>
      obtain ⟨builtin, rfl⟩ := bound signature binding held
      exact (native_effect name builtin context conform).1

theorem bound_empty : Bound name .empty := by
  intro signature binding held
  cases held

theorem bound_register {table : NativeTable Context} (bound : Bound name table)
    {binding : Binding Context} (builtin : binding ∈ natives name) :
    Bound name (table.register binding.declaration binding.native).1 := by
  intro signature other held
  rw [NativeTable.register, OrderedMap.find?_insert] at held
  split at held
  · next same =>
      cases held
      exact ⟨builtin, same⟩
  · exact bound signature other held

theorem bound_unregister {table : NativeTable Context} (bound : Bound name table)
    (gone : Signature) : Bound name (table.unregister gone).1 := by
  intro signature binding held
  rw [NativeTable.unregister, OrderedMap.find?_erase] at held
  split at held
  · cases held
  · exact bound signature binding held

/-- The natives depend on the names of their own texts only. -/
theorem natives_congr {name other : String → Name}
    (same : ∀ text ∈ nativeNames, name text = other text) : natives name = natives other := by
  unfold natives
  simp only [nativeNames, List.forall_mem_cons] at same
  simp only [same]

end Builtin

end NativeBinding
