import NativeBinding.Diagnostic.Queue
import NativeBinding.Host.Context
import NativeBinding.Text.Plain

/-!
# Settings of a session

Settings come as they are or from variables. One variable switches the builtins off; every
variable with the property prefix and a rest gives a property, named by the rest in lower case with
underscores read as points. All other variables are ignored.
-/

set_option autoImplicit false

namespace NativeBinding

structure Settings where
  loadBuiltins : Bool := true
  properties : Properties := .empty
  limits : Limits := {}
  deriving DecidableEq

namespace Settings

def noBuiltinsVariable : String := "TALA_NO_BUILTINS"

def propertyPrefix : String := "TALA_PROP_"

/-- Only ASCII letters have another case here. -/
def propertyName (entry : List Char) : String :=
  String.ofList (entry.map fun c => if c = '_' then '.' else c.toLower)

/-- Values of the switch that leave the builtins in. -/
def keepsBuiltins : List String := ["", "0", "false"]

def withProperty (settings : Settings) (key value : String) : Settings :=
  { settings with properties := settings.properties.insert key value }

def withVariable (settings : Settings) (entry : String × String) : Settings :=
  if entry.1 = noBuiltinsVariable then
    { settings with loadBuiltins := decide (entry.2 ∈ keepsBuiltins) }
  else
    match propertyPrefix.toList.isPrefixOf? entry.1.toList with
    | some (first :: rest) => settings.withProperty (propertyName (first :: rest)) entry.2
    | _ => settings

/-- Of two variables for one setting the later wins. -/
def ofVariables (environment : List (String × String)) : Settings :=
  environment.foldl withVariable {}

def withoutBuiltins (settings : Settings) : Settings := { settings with loadBuiltins := false }

def dump (settings : Settings) : String :=
  let flag (value : Bool) : String := if value then "true" else "false"
  let property (entry : String × String) : String :=
    Text.quote entry.1 ++ ": " ++ Text.quote entry.2
  "SessionConfig \x7b load_builtins: " ++ flag settings.loadBuiltins ++ ", properties: \x7b" ++
    ", ".intercalate (settings.properties.entries.map property) ++
    "\x7d, diagnostics: DiagnosticConfig \x7b error_limit: " ++
    Nat.repr settings.limits.errors ++ ", deduplicate: " ++ flag settings.limits.dropDuplicates ++
    " \x7d \x7d"

end Settings

end NativeBinding
