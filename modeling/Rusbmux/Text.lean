import Mathlib.Algebra.Group.Nat.Defs
import Mathlib.Data.List.Basic

/-!
# Text

What the program uses of `str`: the characters that count as white space, the
trimming of a text, its first part before a separator and the reading of
unsigned numbers.
-/

namespace Rusbmux
namespace Text

def isWhitespace (c : Char) : Bool :=
  let n := c.toNat
  (0x09 <= n && n <= 0x0d) || n = 0x20 || n = 0x85 || n = 0xa0 || n = 0x1680 ||
    (0x2000 <= n && n <= 0x200a) || n = 0x2028 || n = 0x2029 || n = 0x202f ||
    n = 0x205f || n = 0x3000

def trimMatches (p : Char -> Bool) (text : String) : String :=
  .ofList (((text.toList.dropWhile p).reverse.dropWhile p).reverse)

def trim (text : String) : String :=
  trimMatches isWhitespace text

def firstPart (separator : Char) (text : String) : String :=
  .ofList (text.toList.takeWhile (· ≠ separator))

def digits (chars : List Char) : Option Nat :=
  if chars ≠ [] ∧ chars.all Char.isDigit = true then
    some (chars.foldl (fun n c => 10 * n + (c.toNat - '0'.toNat)) 0)
  else
    none

def parseUnsigned (width : Nat) (text : String) : Option Nat :=
  let chars :=
    match text.toList with
    | '+' :: rest => rest
    | chars => chars
  (digits chars).filter (· < 2 ^ width)

end Text
end Rusbmux
