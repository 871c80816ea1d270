import NativeBinding.Callable.Declaration
import NativeBinding.Host.Context
import NativeBinding.Host.Native

/-!
# The natives every session starts with

`runtime:getProperty` reads a property, `io:print` writes a text, and
`http:Response.setBinaryPayload` stores a blob as the body of a response and marks its type.
-/

set_option autoImplicit false

namespace NativeBinding.Builtin

/-- The names that the natives need, in the order in which they are interned. -/
def nativeNames : List String :=
  ["runtime", "getProperty", "io", "print", "http", "Response", "setBinaryPayload", "payload",
    "contentType"]

/-- A property that is not set reads as the empty text. -/
def getProperty : Native Context := fun context args =>
  let key := (args.head?.bind Value.string?).getD ""
  (context, [.string ((context.properties.find? key).getD "")])

def print : Native Context := fun context args =>
  match args.head?.bind Value.string? with
  | some text => (context.print text, [])
  | none => (context, [])

/-- The content type of a body of bytes. -/
def octetStream : String := "application/octet-stream"

def setBinaryPayload (payload contentType : Name) : Native Context := fun context args =>
  match args with
  | [.struct response, .blob bytes] =>
      ((context.setField response payload (.blob bytes)).setField response contentType
        (.string octetStream), [])
  | _ => (context, [])

/-- The natives over names that a table has for `nativeNames`. -/
def natives (name : String → Name) : List (Binding Context) :=
  [⟨(Declaration.function (name "runtime") (name "getProperty")).buildAll
        [.param .string, .returning .string],
      getProperty⟩,
    ⟨(Declaration.function (name "io") (name "print")).buildAll [.param .string], print⟩,
    ⟨(Declaration.function (name "http") (name "setBinaryPayload")).buildAll
        [.attachedTo ⟨name "http", name "Response"⟩, .param .blob],
      setBinaryPayload (name "payload") (name "contentType")⟩]

end NativeBinding.Builtin
