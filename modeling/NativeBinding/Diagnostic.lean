import NativeBinding.Diagnostic.Code
import NativeBinding.Span

/-!
# Diagnostics

A diagnostic is a code with a severity, decorated with a message, labelled spans, notes and help.
Where it is sorted is decided by its first primary label alone.
-/

set_option autoImplicit false

namespace NativeBinding

inductive Severity where
  | error
  | warning
  deriving DecidableEq, Repr, Inhabited

def Severity.text : Severity → String
  | .error => "error"
  | .warning => "warning"

inductive LabelRole where
  /-- Marks what failed. -/
  | primary
  /-- Marks a related place. -/
  | context
  deriving DecidableEq, Repr, Inhabited

structure Label where
  role : LabelRole
  span : Span
  message : String
  deriving DecidableEq, Repr, Inhabited

structure Diagnostic where
  code : Code
  severity : Severity
  message : String := ""
  labels : List Label := []
  notes : List String := []
  help : List String := []
  deriving DecidableEq, Repr, Inhabited

/-- One step of decorating a diagnostic. -/
inductive Decoration where
  | message (text : String)
  | label (span : Span) (text : String)
  | context (span : Span) (text : String)
  | note (text : String)
  | help (text : String)
  deriving DecidableEq, Repr

def Label.text (label : Label) : String :=
  let arrow := match label.role with
    | .primary => "-->"
    | .context => "..."
  "\n  " ++ arrow ++ " " ++ label.span.text ++ ": " ++ label.message

namespace Diagnostic

def error (code : Code) : Diagnostic := { code, severity := .error }

def warning (code : Code) : Diagnostic := { code, severity := .warning }

/-- A later message replaces an earlier one; everything else is added at the end. -/
def decorate (diagnostic : Diagnostic) : Decoration → Diagnostic
  | .message text => { diagnostic with message := text }
  | .label span text => { diagnostic with labels := diagnostic.labels ++ [⟨.primary, span, text⟩] }
  | .context span text =>
      { diagnostic with labels := diagnostic.labels ++ [⟨.context, span, text⟩] }
  | .note text => { diagnostic with notes := diagnostic.notes ++ [text] }
  | .help text => { diagnostic with help := diagnostic.help ++ [text] }

def decorateAll (diagnostic : Diagnostic) (decorations : List Decoration) : Diagnostic :=
  decorations.foldl decorate diagnostic

def isError (diagnostic : Diagnostic) : Bool := diagnostic.severity == .error

/-- The span of the first primary label. -/
def primarySpan? (diagnostic : Diagnostic) : Option Span :=
  (diagnostic.labels.find? fun label => label.role == .primary).map Label.span

/-- Where a diagnostic is listed; one without a primary label comes first. -/
def position (diagnostic : Diagnostic) : Nat :=
  match diagnostic.primarySpan? with
  | some span => span.start
  | none => 0

def text (diagnostic : Diagnostic) : String :=
  diagnostic.severity.text ++ "[" ++ diagnostic.code.text ++ "]: " ++ diagnostic.message ++
    String.join (diagnostic.labels.map Label.text) ++
    String.join (diagnostic.notes.map ("\n  = note: " ++ ·)) ++
    String.join (diagnostic.help.map ("\n  = help: " ++ ·))

/-- Something of the kind `what` is not registered under this name. -/
def unresolved (span : Span) (what name : String) : Diagnostic :=
  (error .unresolvedSymbol).decorateAll
    [.message ("unresolved " ++ what ++ " `" ++ name ++ "`"),
      .label span "not registered in this session"]

end Diagnostic

end NativeBinding
