/-!
# Where natives write

A sink is the console, a buffer or nothing. Only a buffer gives back what was written to it. The
console is shared by everything that writes there, so its text is kept apart from the sinks.
-/

set_option autoImplicit false

namespace NativeBinding

inductive Sink where
  | console
  | buffer (text : String)
  | silent
  deriving DecidableEq, Repr, Inhabited

namespace Sink

def emptyBuffer : Sink := buffer ""

/-- Adds a text at the end; the second text is the console's. -/
def print (sink : Sink) (shown : String) (text : String) : Sink × String :=
  match sink with
  | console => (console, shown ++ text)
  | buffer held => (buffer (held ++ text), shown)
  | silent => (silent, shown)

def println (sink : Sink) (shown : String) (text : String) : Sink × String :=
  sink.print shown (text ++ "\n")

def captured : Sink → String
  | buffer held => held
  | console | silent => ""

/-- Empties a buffer. -/
def clear : Sink → Sink
  | buffer _ => emptyBuffer
  | sink => sink

def dump : Sink → String
  | console => "Stdout"
  | buffer _ => "Buffer"
  | silent => "Silent"

end Sink

end NativeBinding
