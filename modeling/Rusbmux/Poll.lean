import Rusbmux.Parser.Error

/-!
# Polling

The results of functions that are polled, and the buffers that readers fill.
-/

namespace Rusbmux

inductive Poll (alpha : Type) where
  | ready (value : alpha)
  | pending
deriving DecidableEq, Repr

abbrev IoResult (alpha : Type) : Type :=
  Except IoError alpha

namespace Provider

structure ReadBuf where
  filled : List UInt8 := []
  remaining : Nat
deriving DecidableEq, Repr

def ReadBuf.putSlice (buf : ReadBuf) (bytes : List UInt8) : ReadBuf where
  filled := buf.filled ++ bytes
  remaining := buf.remaining - bytes.length

end Provider

end Rusbmux
