/-!
# Quoted text

A quoted text stands between double quotes. Quotes, backslashes and four control characters have
short escapes, every other character that is not plain is written by its code point in lower-case
hexadecimal. Which characters are plain is a parameter: the format works for any choice.
-/

set_option autoImplicit false

namespace NativeBinding.Text

/-- The code point in hexadecimal, as in `\u{301}`. -/
def codePointEscape (c : Char) : List Char :=
  ['\\', 'u', '\x7b'] ++ Nat.toDigits 16 c.toNat ++ ['\x7d']

def escape (plain : Char → Bool) (c : Char) : List Char :=
  if c = '\x00' then ['\\', '0']
  else if c = '\t' then ['\\', 't']
  else if c = '\n' then ['\\', 'n']
  else if c = '\r' then ['\\', 'r']
  else if c = '"' then ['\\', '"']
  else if c = '\\' then ['\\', '\\']
  else if plain c then [c]
  else codePointEscape c

def quotedChars (plain : Char → Bool) (text : List Char) : List Char :=
  '"' :: (text.flatMap (escape plain) ++ ['"'])

def quoted (plain : Char → Bool) (text : String) : String :=
  String.ofList (quotedChars plain text.toList)

end NativeBinding.Text
