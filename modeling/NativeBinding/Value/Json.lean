import NativeBinding.Binary64.Text
import NativeBinding.OrderedMap.Entries
import NativeBinding.Text.Plain

/-!
# JSON documents

Documents are written without blanks. Strings are quoted by the rules of `Text.Quoted`, and which
characters those rules show as they are stays a parameter of the writer. Object members stand in
the order of their keys; `Json.ofMembers` brings them into it.
-/

set_option autoImplicit false

namespace NativeBinding

inductive Json where
  | null
  | bool (value : Bool)
  | int (value : Int64)
  | float (value : Binary64)
  | string (value : String)
  | array (items : List Json)
  | object (members : List (String × Json))

namespace Json

instance : Inhabited Json := ⟨null⟩

/-- Members in key order; of two with one key the later wins. -/
def ofMembers (members : List (String × Json)) : Json := object (Entries.ofList members)

def kind : Json → String
  | null => "null"
  | bool _ => "boolean"
  | int _ => "int"
  | float _ => "float"
  | string _ => "string"
  | array _ => "array"
  | object _ => "object"

def boolChars (value : Bool) : List Char := (if value then "true" else "false").toList

mutual

/-- The document as it is written, for any choice of plain characters. -/
def chars (plain : Char → Bool) : Json → List Char
  | null => "null".toList
  | bool value => boolChars value
  | int value => Decimal.intChars value.toInt
  | float value => Binary64.chars .plain value
  | string value => Text.quotedChars plain value.toList
  | array [] => ['[', ']']
  | array (item :: items) => '[' :: (chars plain item ++ itemsChars plain items)
  | object [] => ['\x7b', '\x7d']
  | object ((key, value) :: members) =>
      '\x7b' :: (Text.quotedChars plain key.toList ++
        ':' :: (chars plain value ++ membersChars plain members))

/-- What follows an item up to the closing bracket. -/
def itemsChars (plain : Char → Bool) : List Json → List Char
  | [] => [']']
  | item :: items => ',' :: (chars plain item ++ itemsChars plain items)

/-- What follows a member up to the closing brace. -/
def membersChars (plain : Char → Bool) : List (String × Json) → List Char
  | [] => ['\x7d']
  | (key, value) :: members =>
      ',' :: (Text.quotedChars plain key.toList ++
        ':' :: (chars plain value ++ membersChars plain members))

end

def text (document : Json) : String := String.ofList (chars Text.isPlain document)

mutual

/-- Equality with floating point numbers compared as numbers. -/
def equals : Json → Json → Bool
  | null, null => true
  | bool left, bool right => left == right
  | int left, int right => left == right
  | float left, float right => left.equals right
  | string left, string right => left == right
  | array left, array right => itemsEqual left right
  | object left, object right => membersEqual left right
  | _, _ => false

def itemsEqual : List Json → List Json → Bool
  | [], [] => true
  | left :: lefts, right :: rights => equals left right && itemsEqual lefts rights
  | _, _ => false

def membersEqual : List (String × Json) → List (String × Json) → Bool
  | [], [] => true
  | (leftKey, left) :: lefts, (rightKey, right) :: rights =>
      leftKey == rightKey && equals left right && membersEqual lefts rights
  | _, _ => false

end

mutual

/-- The constructor form. -/
def dump : Json → String
  | null => "Null"
  | bool value => "Bool(" ++ String.ofList (boolChars value) ++ ")"
  | int value => "Int(" ++ Decimal.ofInt value.toInt ++ ")"
  | float value => "Float(" ++ value.dump ++ ")"
  | string value => "String(" ++ Text.quote value ++ ")"
  | array items => "Array([" ++ ", ".intercalate (dumpItems items) ++ "])"
  | object members => "Object(\x7b" ++ ", ".intercalate (dumpMembers members) ++ "\x7d)"

def dumpItems : List Json → List String
  | [] => []
  | item :: items => dump item :: dumpItems items

def dumpMembers : List (String × Json) → List String
  | [] => []
  | (key, value) :: members => (Text.quote key ++ ": " ++ dump value) :: dumpMembers members

end

end Json

end NativeBinding
