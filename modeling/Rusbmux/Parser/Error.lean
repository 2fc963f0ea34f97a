import Mathlib.Data.List.Basic

/-!
# Parse errors

The error type of both packet parsers.  Errors that come from a library the
parsers call (the property-list reader, the TCP header reader) keep the data
those libraries document and nothing else.
-/

namespace Rusbmux

inductive ErrorKind where
  | notFound
  | permissionDenied
  | connectionRefused
  | connectionReset
  | hostUnreachable
  | networkUnreachable
  | connectionAborted
  | notConnected
  | addrInUse
  | addrNotAvailable
  | networkDown
  | brokenPipe
  | alreadyExists
  | wouldBlock
  | notADirectory
  | isADirectory
  | directoryNotEmpty
  | readOnlyFilesystem
  | staleNetworkFileHandle
  | invalidInput
  | invalidData
  | timedOut
  | writeZero
  | storageFull
  | notSeekable
  | quotaExceeded
  | fileTooLarge
  | resourceBusy
  | executableFileBusy
  | deadlock
  | crossesDevices
  | tooManyLinks
  | invalidFilename
  | argumentListTooLong
  | interrupted
  | unsupported
  | unexpectedEof
  | outOfMemory
  | other
deriving DecidableEq, Repr

structure IoError where
  kind : ErrorKind
  message : String := ""
deriving DecidableEq, Repr

structure PlistError where
  text : String
deriving DecidableEq, Repr

/-- Why a TCP header cannot be read from a slice. -/
inductive TcpHeaderSliceError where
  | len (requiredLen len : Nat)
  | content (dataOffset : Nat)
deriving DecidableEq, Repr

inductive ParseError where
  | io (err : IoError)
  | plist (err : PlistError)
  | tcpHeaderSlice (err : TcpHeaderSliceError)
  | invalidData (message : String)
deriving DecidableEq, Repr

namespace ParseError

def isIo : ParseError -> Bool
  | io _ => true
  | _ => false

end ParseError

end Rusbmux
