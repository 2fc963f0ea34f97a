import Mathlib.Algebra.Ring.Int.Defs
import Mathlib.Algebra.Ring.Nat
import Mathlib.Data.List.Basic
import Rusbmux.Parser.Error

/-!
# Property-list values

The values of the property-list library: what its readers return and its
writers take.  A dictionary keeps the order in which its keys were inserted.
The text and binary formats themselves are read and written by the library; the
functions below are parameters of whatever uses them.
-/

namespace Rusbmux
namespace Plist

structure Integer where
  value : Int
  lower : -2 ^ 63 <= value
  upper : value < 2 ^ 64
deriving DecidableEq, Repr

namespace Integer

def ofNat (n : Nat) (h : n < 2 ^ 64) : Integer where
  value := n
  lower := by omega
  upper := by omega

def ofBits (n : UInt64) : Integer where
  value := if n.toNat < 2 ^ 63 then n.toNat else n.toNat - 2 ^ 64
  lower := by split <;> omega
  upper := by
    have hn := n.toNat_lt
    split <;> omega

def asUnsigned (n : Integer) : Option Nat :=
  if 0 <= n.value then some n.value.toNat else none

def asSigned (n : Integer) : Option Int :=
  if n.value < 2 ^ 63 then some n.value else none

@[simp] theorem asUnsigned_ofNat (n : Nat) (h : n < 2 ^ 64) :
    (ofNat n h).asUnsigned = some n := by
  simp [asUnsigned, ofNat]

end Integer

inductive Value where
  | array (items : List Value)
  | dictionary (entries : List (String × Value))
  | boolean (b : Bool)
  | data (bytes : List UInt8)
  | date (xmlFormat : String)
  | real (text : String)
  | integer (n : Integer)
  | string (text : String)
  | uid (n : UInt64)

namespace Value

def asDictionary : Value -> Option (List (String × Value))
  | dictionary entries => some entries
  | _ => none

def asString : Value -> Option String
  | string text => some text
  | _ => none

def asUnsignedInteger : Value -> Option Nat
  | integer n => n.asUnsigned
  | _ => none

def asSignedInteger : Value -> Option Int
  | integer n => n.asSigned
  | _ => none

def get (entries : List (String × Value)) (key : String) : Option Value :=
  entries.lookup key

end Value

/-- The library's reader and writer of the serialized formats. -/
structure Format where
  fromBytes : List UInt8 -> Except PlistError Value
  toXmlBytes : Value -> List UInt8

end Plist
end Rusbmux
