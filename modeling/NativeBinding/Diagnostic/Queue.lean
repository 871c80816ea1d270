import NativeBinding.Diagnostic

/-!
# Queues of diagnostics

A queue counts every error pushed onto it and keeps a diagnostic unless it is an error beyond the
limit or, when duplicates are dropped, equal to one already kept. Whoever pushes an error gets
evidence that it was reported, whether or not it was kept.
-/

set_option autoImplicit false

namespace NativeBinding

/-- Evidence that an error was reported. -/
inductive Reported where
  | reported
  deriving DecidableEq, Repr

namespace Reported

def ofCount (errors : Nat) : Option Reported := if 0 < errors then some reported else none

def text : Reported → String
  | reported => "error(s) emitted"

end Reported

structure Limits where
  /-- The most errors a queue keeps; zero for no limit. -/
  errors : Nat := 50
  dropDuplicates : Bool := true
  deriving DecidableEq, Repr, Inhabited

def Limits.unlimited : Limits := ⟨0, false⟩

structure Queue where
  kept : List Diagnostic := []
  /-- The errors pushed, kept or not. -/
  errors : Nat := 0
  limits : Limits := {}
  deriving DecidableEq, Inhabited

namespace Queue

def ofLimits (limits : Limits) : Queue := { limits }

/-- Whether a diagnostic is kept, given the number of errors with it. -/
def accepts (queue : Queue) (errors : Nat) (diagnostic : Diagnostic) : Bool :=
  let overLimit :=
    diagnostic.isError && decide (0 < queue.limits.errors) && decide (queue.limits.errors < errors)
  let duplicate := queue.limits.dropDuplicates && queue.kept.contains diagnostic
  !overLimit && !duplicate

def push (queue : Queue) (diagnostic : Diagnostic) : Queue × Option Reported :=
  let errors := if diagnostic.isError then queue.errors + 1 else queue.errors
  let kept :=
    if queue.accepts errors diagnostic then queue.kept ++ [diagnostic] else queue.kept
  ({ queue with kept, errors }, if diagnostic.isError then some .reported else none)

def pushAll (queue : Queue) (diagnostics : List Diagnostic) : Queue :=
  diagnostics.foldl (fun queue diagnostic => (queue.push diagnostic).1) queue

def keptErrors (queue : Queue) : Nat := queue.kept.countP Diagnostic.isError

/-- Moves a queue into this one; the errors the other had already dropped still count. -/
def extend (queue other : Queue) : Queue :=
  let moved := queue.pushAll other.kept
  { moved with errors := moved.errors + (other.errors - other.keptErrors) }

def hasErrors (queue : Queue) : Bool := 0 < queue.errors

def guarantee (queue : Queue) : Option Reported := Reported.ofCount queue.errors

/-- Empties the queue in order of position; equal positions keep their order of arrival. -/
def flush (queue : Queue) : Queue × List Diagnostic :=
  ({ queue with kept := [], errors := 0 },
    queue.kept.mergeSort fun left right => left.position ≤ right.position)

end Queue

end NativeBinding
