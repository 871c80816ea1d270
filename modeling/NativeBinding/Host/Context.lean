import NativeBinding.Host.Sink
import NativeBinding.Value.Heap

/-!
# What a native can reach

A native reads the properties, writes to the sink and reads and writes the world: the instances
and the console, which belong to no session.
-/

set_option autoImplicit false

namespace NativeBinding

/-- Properties in the order of their keys. -/
abbrev Properties := OrderedMap String String

structure World where
  heap : Heap
  console : String

def World.initial : World := ⟨.empty, ""⟩

structure Context where
  properties : Properties
  sink : Sink
  world : World

namespace Context

def print (context : Context) (text : String) : Context :=
  let (sink, console) := context.sink.print context.world.console text
  { context with sink, world.console := console }

def println (context : Context) (text : String) : Context := context.print (text ++ "\n")

def setField (context : Context) (ref : InstanceRef) (name : Name) (value : Value) : Context :=
  { context with world.heap := context.world.heap.setField ref name value }

end Context

end NativeBinding
