import NativeBinding.Name

/-!
# The types a native signature can mention

The set is closed: eleven keyword types, arrays of any of them, and the struct and connector types
that packages declare. Types are ordered by kind and then by contents, at any depth of arrays.
-/

set_option autoImplicit false

namespace NativeBinding

/-- A type that a package declares. -/
structure TypeName where
  package : Name
  name : Name
  deriving DecidableEq, Repr, Inhabited

namespace TypeName

def order : TypeName → TypeName → Ordering := compareLex (compareOn package) (compareOn name)

instance : Ord TypeName := ⟨order⟩

instance : Std.TransOrd TypeName :=
  inferInstanceAs (Std.TransCmp (compareLex (compareOn package) (compareOn name)))

instance : Std.LawfulEqOrd TypeName where
  toReflCmp := inferInstanceAs (Std.ReflCmp (compareLex (compareOn package) (compareOn name)))
  eq_of_compare := by
    intro ⟨leftPackage, leftName⟩ ⟨rightPackage, rightName⟩ same
    obtain ⟨packages, names⟩ := Ordering.then_eq_eq.1 same
    have samePackage : leftPackage = rightPackage := Std.LawfulEqCmp.eq_of_compare packages
    have sameName : leftName = rightName := Std.LawfulEqCmp.eq_of_compare names
    rw [samePackage, sameName]

def text (spell : Spelling) (type : TypeName) : String :=
  spell type.package ++ ":" ++ spell type.name

def dump (type : TypeName) : String :=
  "TypeRef \x7b package: " ++ type.package.dump ++ ", name: " ++ type.name.dump ++ " \x7d"

end TypeName

inductive ValueType where
  | int
  | float
  | boolean
  | string
  | blob
  | json
  | xml
  | map
  /-- Accepts every value. -/
  | any
  /-- The absent value. -/
  | nil
  /-- Fills the last result of a call or conversion that can fail. -/
  | error
  | array (element : ValueType)
  | struct (name : TypeName)
  /-- Actions are called through values of these types. -/
  | connector (name : TypeName)
  deriving DecidableEq, Repr, Inhabited

namespace ValueType

/-- The keyword of a type that has one. -/
def keyword? : ValueType → Option String
  | int => some "int"
  | float => some "float"
  | boolean => some "boolean"
  | string => some "string"
  | blob => some "blob"
  | json => some "json"
  | xml => some "xml"
  | map => some "map"
  | any => some "any"
  | nil => some "nil"
  | error => some "error"
  | array _ | struct _ | connector _ => none

/-- The types that a source text can name by keyword: all keyword types but `nil`. -/
def nameable : List ValueType :=
  [int, float, boolean, string, blob, json, xml, map, any, error]

def ofKeyword? (word : String) : Option ValueType :=
  nameable.find? fun type => type.keyword? == some word

def isPrimitive (type : ValueType) : Bool := type.keyword?.isSome

def element? : ValueType → Option ValueType
  | array element => some element
  | _ => none

def typeName? : ValueType → Option TypeName
  | struct name | connector name => some name
  | _ => none

/-- Keywords, `T[]` for arrays, and `package:Name` for structs and connectors alike. -/
def text (spell : Spelling) : ValueType → String
  | int => "int"
  | float => "float"
  | boolean => "boolean"
  | string => "string"
  | blob => "blob"
  | json => "json"
  | xml => "xml"
  | map => "map"
  | any => "any"
  | nil => "nil"
  | error => "error"
  | array element => text spell element ++ "[]"
  | struct name | connector name => name.text spell

/-- The constructor form, with names by index. -/
def dump : ValueType → String
  | int => "Int"
  | float => "Float"
  | boolean => "Boolean"
  | string => "String"
  | blob => "Blob"
  | json => "Json"
  | xml => "Xml"
  | map => "Map"
  | any => "Any"
  | nil => "Nil"
  | error => "Error"
  | array element => "Array(" ++ dump element ++ ")"
  | struct name => "Struct(" ++ name.dump ++ ")"
  | connector name => "Connector(" ++ name.dump ++ ")"

/-- The place of a type's kind in the order of types. -/
def rank : ValueType → Nat
  | int => 0
  | float => 1
  | boolean => 2
  | string => 3
  | blob => 4
  | json => 5
  | xml => 6
  | map => 7
  | any => 8
  | nil => 9
  | error => 10
  | array _ => 11
  | struct _ => 12
  | connector _ => 13

/-- By kind; arrays then by element, structs and connectors by package and name. -/
def order : ValueType → ValueType → Ordering
  | array left, array right => order left right
  | struct left, struct right => compare left right
  | connector left, connector right => compare left right
  | left, right => compare left.rank right.rank

instance : Ord ValueType := ⟨order⟩

end ValueType

end NativeBinding
