/-!
# Source ranges

A span is a half-open range of byte offsets into the unit that produced a node. Nothing keeps the
end from lying before the start; such a span is empty.
-/

set_option autoImplicit false

namespace NativeBinding

structure Span where
  start : Nat
  stop : Nat
  deriving DecidableEq, Repr, Inhabited

namespace Span

/-- The span of everything that has no source. -/
def dummy : Span := ⟨0, 0⟩

def length (span : Span) : Nat := span.stop - span.start

def isEmpty (span : Span) : Bool := span.stop ≤ span.start

def text (span : Span) : String := Nat.repr span.start ++ ".." ++ Nat.repr span.stop

end Span

end NativeBinding
