import NativeBinding.Text.GraphemeExtend
import NativeBinding.Text.Invisible
import NativeBinding.Text.Quoted

/-!
# Which characters a quoted text shows as they are

A character is plain when it has a glyph of its own and stands without the character before it.
-/

set_option autoImplicit false

namespace NativeBinding.Text

def isPlain (c : Char) : Bool := !isInvisible c && !isGraphemeExtend c

/-- Quoted with the plain characters of the tables. -/
def quote (text : String) : String := quoted isPlain text

end NativeBinding.Text
