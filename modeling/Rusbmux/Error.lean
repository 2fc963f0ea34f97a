import Rusbmux.Parser.Error
import Rusbmux.Parser.UsbMux

/-!
# Errors of the daemon

The error type that the handlers and the device operations share.  Errors of
libraries keep their text.
-/

namespace Rusbmux

open Rusbmux.Parser

inductive ChannelError where
  | usbRecv
  | usbSend
deriving DecidableEq, Repr

inductive MissingFields where
  | pairRecordID
  | pairRecordData
  | deviceID
  | portNumber
  | systemBUID
deriving DecidableEq, Repr

namespace MissingFields

def debug : MissingFields -> String
  | pairRecordID => "PairRecordID"
  | pairRecordData => "PairRecordData"
  | deviceID => "DeviceID"
  | portNumber => "PortNumber"
  | systemBUID => "SystemBUID"

def resultCode : MissingFields -> UsbMuxResult
  | pairRecordID | pairRecordData | systemBUID => .invalidInput
  | deviceID => .badDeviceOrNoSuchFile
  | portNumber => .badCommand

end MissingFields

inductive RusbmuxError where
  | usb (text : String)
  | io (err : IoError)
  | usbmuxInterfaceNotFound
  | bulkInEndpointNotFound
  | bulkOutEndpointNotFound
  | parse (err : ParseError)
  | channel (err : ChannelError)
  | unexpectedPacket (message : String)
  | invalidData (message : String)
  | valueNotFound (field : MissingFields)
  | deviceNotFound (id : UInt64)
  | hotPlugNotSupported
  | plist (err : PlistError)
  | ranOutOfSourcePort
  | powerAssertion (message : String)
  | idevice (text : String)
  | rusbError (text : String)
  | mdns (text : String)
deriving DecidableEq, Repr

end Rusbmux
