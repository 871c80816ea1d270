import NativeBinding.OrderedMap.Entries

/-!
# Ordered maps

A map is a list of entries with strictly ascending keys, and carries the proof. Listings come in
key order, and maps with the same lookups are equal.
-/

set_option autoImplicit false

namespace NativeBinding

structure OrderedMap (κ β : Type) [Ord κ] where
  entries : List (κ × β)
  ascending : Entries.Ascending entries
  deriving DecidableEq

namespace OrderedMap

variable {κ β : Type} [Ord κ]

def empty : OrderedMap κ β := ⟨[], List.Pairwise.nil⟩

instance : Inhabited (OrderedMap κ β) := ⟨empty⟩

def keys (map : OrderedMap κ β) : List κ := map.entries.map (·.1)

/-- The values in the order of their keys. -/
def values (map : OrderedMap κ β) : List β := map.entries.map (·.2)

def size (map : OrderedMap κ β) : Nat := map.entries.length

def isEmpty (map : OrderedMap κ β) : Bool := map.entries.isEmpty

variable [DecidableEq κ]

def find? (map : OrderedMap κ β) (key : κ) : Option β := Entries.find? key map.entries

def contains (map : OrderedMap κ β) (key : κ) : Bool := (map.find? key).isSome

def erase (map : OrderedMap κ β) (key : κ) : OrderedMap κ β :=
  ⟨Entries.erase key map.entries, Entries.ascending_erase key map.ascending⟩

@[simp]
theorem find?_empty (key : κ) : (empty : OrderedMap κ β).find? key = none := rfl

@[simp]
theorem find?_erase (map : OrderedMap κ β) (key other : κ) :
    (map.erase key).find? other = if other = key then none else map.find? other :=
  Entries.find?_erase key other map.entries

variable [Std.TransOrd κ] [Std.LawfulEqOrd κ]

def insert (map : OrderedMap κ β) (key : κ) (value : β) : OrderedMap κ β :=
  ⟨Entries.insert key value map.entries, Entries.ascending_insert key value map.ascending⟩

/-- Of two pairs with one key the later wins. -/
def ofList (pairs : List (κ × β)) : OrderedMap κ β :=
  pairs.foldl (fun map pair => map.insert pair.1 pair.2) empty

@[simp]
theorem find?_insert (map : OrderedMap κ β) (key other : κ) (value : β) :
    (map.insert key value).find? other = if other = key then some value else map.find? other :=
  Entries.find?_insert key other value map.entries

omit [Std.TransOrd κ] in
theorem mem_entries_iff (map : OrderedMap κ β) {key : κ} {value : β} :
    (key, value) ∈ map.entries ↔ map.find? key = some value :=
  (Entries.find?_eq_some_iff map.ascending).symm

omit [Std.TransOrd κ] in
theorem mem_values_iff (map : OrderedMap κ β) (value : β) :
    value ∈ map.values ↔ ∃ key, map.find? key = some value := by
  constructor
  · intro member
    obtain ⟨⟨key, held⟩, inEntries, rfl⟩ := List.mem_map.1 member
    exact ⟨key, map.mem_entries_iff.1 inEntries⟩
  · rintro ⟨key, found⟩
    exact List.mem_map.2 ⟨(key, value), map.mem_entries_iff.2 found, rfl⟩

omit [Std.TransOrd κ] in
/-- A relation between the values of any two different keys holds along the listing. -/
theorem pairwise_values (map : OrderedMap κ β) {related : β → β → Prop}
    (apart : ∀ {key other value held}, key ≠ other → map.find? key = some value →
      map.find? other = some held → related value held) : map.values.Pairwise related := by
  unfold values
  rw [List.pairwise_map]
  refine map.ascending.imp_of_mem ?_
  rintro ⟨key, value⟩ ⟨other, held⟩ first second before
  have different : key ≠ other := by
    rintro rfl
    simp [Std.ReflCmp.compare_self] at before
  exact apart different (map.mem_entries_iff.1 first) (map.mem_entries_iff.1 second)

theorem size_insert_of_absent {map : OrderedMap κ β} {key : κ} {value : β}
    (absent : map.find? key = none) : (map.insert key value).size = map.size + 1 :=
  Entries.length_insert_of_absent absent

/-- A map is what its lookups answer. -/
theorem ext {left right : OrderedMap κ β} (same : ∀ key, left.find? key = right.find? key) :
    left = right := by
  obtain ⟨leftEntries, leftAscending⟩ := left
  obtain ⟨rightEntries, rightAscending⟩ := right
  congr
  exact Entries.ext leftAscending rightAscending same

theorem insert_of_found {map : OrderedMap κ β} {key : κ} {value : β}
    (found : map.find? key = some value) : map.insert key value = map := by
  apply ext
  intro other
  rw [find?_insert]
  split
  · next same => rw [same, found]
  · rfl

theorem erase_of_absent {map : OrderedMap κ β} {key : κ} (absent : map.find? key = none) :
    map.erase key = map := by
  apply ext
  intro other
  rw [find?_erase]
  split
  · next same => rw [same, absent]
  · rfl

end OrderedMap

end NativeBinding
