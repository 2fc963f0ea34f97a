import Rusbmux.Poll

/-!
# Bulk transfers

What the readers and writers of `usb_backend/rusb/mod.rs` see of a transfer that
they have submitted: the receiver on which its callback puts the result.  The
callback runs on a thread of its own, so a receiver may get its result at any
time, also before the function that submitted the transfer looks at it.
-/

namespace Rusbmux
namespace UsbBackend

structure BulkResult where
  status : Int
  data : List UInt8
deriving DecidableEq, Repr

inductive Receiver where
  | waiting
  | ready (result : BulkResult)
  | closed
  | finished
deriving DecidableEq, Repr

/--
Polling the receiver: a result, or `none` in the place of it if there will be
none.  A receiver that is polled after its result stops the program.
-/
def Receiver.poll : Receiver -> Option (Poll (Option BulkResult))
  | waiting => some .pending
  | ready result => some (.ready (some result))
  | closed => some (.ready none)
  | finished => none

abbrev Submission : Type :=
  Except String Receiver

def ioError (text : String) : IoError where
  kind := .other
  message := text

def submissionError (text : String) : IoError :=
  ioError s!"Received an unexpected packet: {text}"

def libusbStatusStr : Int -> String
  | -1 => "LIBUSB_ERROR_IO"
  | -2 => "LIBUSB_ERROR_INVALID_PARAM"
  | -3 => "LIBUSB_ERROR_ACCESS"
  | -4 => "LIBUSB_ERROR_NO_DEVICE"
  | -5 => "LIBUSB_ERROR_NOT_FOUND"
  | -6 => "LIBUSB_ERROR_BUSY"
  | -7 => "LIBUSB_ERROR_TIMEOUT"
  | -8 => "LIBUSB_ERROR_OVERFLOW"
  | -9 => "LIBUSB_ERROR_PIPE"
  | -10 => "LIBUSB_ERROR_INTERRUPTED"
  | -11 => "LIBUSB_ERROR_NO_MEM"
  | -12 => "LIBUSB_ERROR_NOT_SUPPORTED"
  | status => s!"LIBUSB_ERROR_UNKNOWN({status})"

end UsbBackend
end Rusbmux
