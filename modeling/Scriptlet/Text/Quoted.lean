import Scriptlet.Unicode.Addition
import Scriptlet.Unicode.Trait

/-!
# Quoted text

A text between double quotes, as log events show the texts that they mention. Quotes and backslashes
inside are escaped, and so is everything that a reader could not make out: control characters, white
space other than the plain space, invisible characters, and marks that would melt into the character
before them.
-/

namespace Scriptlet.Quoted

open Unicode

/-- Characters that melt into the one before them. The voiced marks of halfwidth Katakana, which
have a width of their own, do not. -/
def combining : CodeSet :=
  graphemeExtend.diff (.range 0xFF9E 0xFF9F)

/-- Characters that show what they are. -/
def legible : CodeSet :=
  .union addedVisible
    (.compl (.unions [combining, defaultIgnorableCodePoint,
      Category.set (Category.separators ++ Category.others)]))

/-- The escape by number: the code point in hexadecimal, between braces. -/
def numbered (c : Char) : String :=
  "\\u\x7b" ++ String.ofList (Nat.toDigits 16 c.toNat) ++ "\x7d"

/-- One character within quotes. -/
def encodeChar (c : Char) : String :=
  if c = '\x00' then "\\0"
  else if c = '\t' then "\\t"
  else if c = '\r' then "\\r"
  else if c = '\n' then "\\n"
  else if c = '"' then "\\\""
  else if c = '\\' then "\\\\"
  else if c = ' ' || legible.contains c then c.toString
  else numbered c

def encode (text : String) : String :=
  "\"" ++ String.join (text.toList.map encodeChar) ++ "\""

end Scriptlet.Quoted
