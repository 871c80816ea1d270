import NativeBinding.OrderedMap

/-!
# Names and the table that spells them

A name is an index. The table gives each text one name, in the order in which the texts arrive, so
names compare by arrival and never by spelling. A name of another table is spelled by whatever
stands at its index, or as `<unknown>`.
-/

set_option autoImplicit false

namespace NativeBinding

structure Name where
  index : Nat
  deriving DecidableEq, Repr, Inhabited

namespace Name

/-- The name of the empty text, which every table holds first. -/
def empty : Name := ⟨0⟩

/-- The index itself, for messages that may not depend on a table. -/
def dump (name : Name) : String := "Name#" ++ Nat.repr name.index

instance : Ord Name := ⟨compareOn index⟩

instance : Std.TransOrd Name := inferInstanceAs (Std.TransCmp (compareOn index))

instance : Std.LawfulEqOrd Name where
  toReflCmp := inferInstanceAs (Std.ReflCmp (compareOn index))
  eq_of_compare := by
    intro ⟨left⟩ ⟨right⟩ same
    have indices : left = right := Nat.compare_eq_eq.1 same
    rw [indices]

end Name

/-- Reading a name back as text; `NameTable.text` is the one every message uses. -/
abbrev Spelling := Name → String

/-- The texts by index and the names by text. -/
structure NameTable where
  texts : Array String
  names : OrderedMap String Name

/-- The table cannot give out another index. -/
structure FullTable where
  held : Nat
  deriving DecidableEq, Repr

def FullTable.message (full : FullTable) : String :=
  "string table is full after " ++ Nat.repr full.held ++ " entries"

namespace NameTable

def bare : NameTable := ⟨#[], .empty⟩

def size (table : NameTable) : Nat := table.texts.size

/-- A table that holds nothing but the empty text counts as empty. -/
def isEmpty (table : NameTable) : Bool := table.size ≤ 1

def name? (table : NameTable) (text : String) : Option Name := table.names.find? text

/-- A text that is present keeps its name; a new one gets the next index. -/
def intern (table : NameTable) (text : String) : NameTable × Name :=
  match table.name? text with
  | some name => (table, name)
  | none =>
      let name : Name := ⟨table.size⟩
      (⟨table.texts.push text, table.names.insert text name⟩, name)

/-- Indices are words of 32 bits, so a table gives out this many. -/
def capacity : Nat := UInt32.size

/-- Refuses a new text once every index is taken. -/
def intern? (table : NameTable) (text : String) : Except FullTable (NameTable × Name) :=
  if (table.name? text).isSome ∨ table.size < capacity then .ok (table.intern text)
  else .error ⟨table.size⟩

def internAll (table : NameTable) (texts : List String) : NameTable :=
  texts.foldl (fun table text => (table.intern text).1) table

/-- Spelled before any other text: the keywords of the types and the packages every host has. -/
def predefined : List String :=
  ["int", "float", "boolean", "string", "blob", "json", "xml", "map", "any", "error", "runtime",
    "io", "http"]

def fresh : NameTable := bare.internAll ("" :: predefined)

def text (table : NameTable) : Spelling := fun name =>
  (table.texts[name.index]?).getD "<unknown>"

def dump (table : NameTable) : String :=
  "SharedInterner(StringInterner \x7b len: " ++ Nat.repr table.size ++ " \x7d)"

end NameTable

end NativeBinding
