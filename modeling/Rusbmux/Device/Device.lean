import Rusbmux.Plist.Value
import Rusbmux.Parser.UsbMuxRequest

/-!
# Devices

The devices of the registry, with the data that is shown to clients.  A network
device keeps its socket address as the bytes it is shown with.
-/

namespace Rusbmux

open Plist
open Rusbmux.Parser

structure UsbDevice where
  id : UInt64
  udid : String
  speed : Option UInt64 := none
  locationId : UInt32 := 0
  productId : UInt16 := 0
deriving DecidableEq, Repr

structure NetworkDevice where
  id : UInt64
  udid : String
  macAddress : String := ""
  serviceName : String := ""
  scopeId : Option UInt32 := none
  networkAddress : List UInt8 := []
deriving DecidableEq, Repr

inductive Device where
  | network (dev : NetworkDevice)
  | usb (dev : UsbDevice)
deriving DecidableEq, Repr

namespace Device

def id : Device -> UInt64
  | network dev => dev.id
  | usb dev => dev.id

def udid : Device -> String
  | network dev => dev.udid
  | usb dev => dev.udid

def isUsb : Device -> Bool
  | usb _ => true
  | network _ => false

def isNetwork : Device -> Bool
  | usb _ => false
  | network _ => true

def createDeviceAttached : Device -> Value
  | usb dev =>
      .dictionary
        [("DeviceID", unsigned64 dev.id),
          ("MessageType", .string "Attached"),
          ("Properties", .dictionary
            [("ConnectionSpeed", unsigned64 (dev.speed.getD 0)),
              ("ConnectionType", .string "USB"),
              ("DeviceID", unsigned64 dev.id),
              ("LocationID", unsigned32 dev.locationId),
              ("ProductID", unsigned16 dev.productId),
              ("SerialNumber", .string dev.udid)])]
  | network dev =>
      .dictionary
        [("DeviceID", unsigned64 dev.id),
          ("MessageType", .string "Attached"),
          ("Properties", .dictionary
            [("ConnectionType", .string "Network"),
              ("DeviceID", unsigned64 dev.id),
              ("EscapedFullServiceName", .string dev.serviceName),
              ("InterfaceIndex", unsigned32 (dev.scopeId.getD 0)),
              ("NetworkAddress", .data dev.networkAddress),
              ("SerialNumber", .string dev.udid)])]

@[simp] theorem isNetwork_eq_not_isUsb (dev : Device) :
    dev.isNetwork = !dev.isUsb := by
  cases dev <;> rfl

end Device

end Rusbmux
