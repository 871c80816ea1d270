import NativeBinding.Builtin.Conversions
import NativeBinding.Builtin.Natives
import NativeBinding.Callable.Call
import NativeBinding.Conversion.Check
import NativeBinding.Session.Settings

/-!
# Sessions

A session owns the name table, the catalog, the conversions and the host functions behind them.
Hosts register into it, checkers resolve against it, and calls run through it. Instances and the
console belong to the world around the session, which a call receives and gives back.
-/

set_option autoImplicit false

namespace NativeBinding

structure Session where
  settings : Settings
  names : NameTable
  catalog : Catalog
  conversions : ConversionTable
  natives : NativeTable Context
  routines : RoutineTable
  sink : Sink

namespace Session

def bare (settings : Settings) (sink : Sink) : Session :=
  { settings
    names := .fresh
    catalog := .empty
    conversions := .empty
    natives := .empty
    routines := .empty
    sink }

/-- Declares a callable and binds its implementation under the same signature. -/
def registerNative (session : Session) (binding : Binding Context) : Session :=
  { session with
    catalog := session.catalog.register binding.declaration
    natives := (session.natives.register binding.declaration binding.native).1 }

/-- Drops the implementation and the package entry; the symbol stays until the scope is rebuilt. -/
def unregisterNative (session : Session) (declaration : Declaration) : Session :=
  { session with
    catalog := session.catalog.unregister declaration.kind declaration.package declaration.member
    natives := (session.natives.unregister declaration.signature).1 }

def registerPackage (session : Session) (package : Package) : Session :=
  { session with catalog := session.catalog.registerPackage package }

def rebuildScope (session : Session) : Session :=
  { session with catalog := session.catalog.rebuildScope }

/-- The routine is bound also when the conversion itself was already registered. -/
def registerConversion (session : Session) (conversion : Conversion) (routine : Routine) :
    Session × Bool :=
  let (conversions, added) := session.conversions.register conversion
  ({ session with conversions, routines := session.routines.register conversion.routine routine },
    added)

/-- Interns the names of the builtins first, then registers natives and conversions. -/
def loadBuiltins (session : Session) : Session :=
  let names := session.names.internAll (Builtin.nativeNames ++ Builtin.conversionNames)
  let name (text : String) : Name := (names.name? text).getD .empty
  let withNatives := (Builtin.natives name).foldl registerNative { session with names }
  Builtin.conversions.foldl
    (fun session entry =>
      (session.registerConversion ⟨entry.source, entry.target, entry.safe, name entry.text⟩
        entry.routine).1)
    withNatives

def start (settings : Settings) (sink : Sink) : Session :=
  let session := bare settings sink
  if settings.loadBuiltins then session.loadBuiltins else session

def intern (session : Session) (text : String) : Session × Name :=
  let (names, name) := session.names.intern text
  ({ session with names }, name)

def resolveCall (session : Session) (call : Call) : Except CallError Symbol :=
  session.catalog.resolveCall call

def checkConversions (session : Session) (units : List (List Site)) :
    Queue × List (List Site) :=
  session.conversions.checkUnits session.names.text session.settings.limits units

/-- Properties are read only: whatever a native does, the session keeps its settings. -/
def invoke (session : Session) (world : World) (signature : Signature) (args : List Value) :
    Session × World × Except DispatchError (List Value) :=
  let (context, outcome) :=
    session.natives.invoke ⟨session.settings.properties, session.sink, world⟩ signature args
  ({ session with sink := context.sink }, context.world, outcome)

def convert (session : Session) (world : World) (cast : Cast) (operand : Value) :
    Except ConvertError (List Value) :=
  session.routines.convert world.heap cast operand

def dump (session : Session) : String :=
  "Session \x7b config: " ++ session.settings.dump ++
    ", packages: " ++ Nat.repr session.catalog.packages.size ++
    ", conversions: " ++ Nat.repr session.conversions.size ++
    ", natives: " ++ Nat.repr session.natives.size ++ ", .. \x7d"

end Session

end NativeBinding
