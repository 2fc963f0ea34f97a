import Mathlib.Data.Finset.Basic
import Mathlib.Data.Finset.Image
import Rusbmux.Device.Device
import Rusbmux.Error

/-!
# The device registry

The registry of connected devices and the operations that change it, each with
the events it broadcasts: the arms of the two watcher loops, `remove_device`
and `add_device`.  A device is registered under its id; storing a device under
an id replaces the one that was there.
-/

namespace Rusbmux
namespace Watcher

inductive DeviceEvent where
  | attached (id : UInt64)
  | detached (id : UInt64)
deriving DecidableEq, Repr

abbrev Registry : Type :=
  List Device

abbrev Effect : Type :=
  Registry × List DeviceEvent

namespace Registry

def get (R : Registry) (id : UInt64) : Option Device :=
  R.find? fun dev => dev.id = id

def remove (R : Registry) (id : UInt64) : Registry :=
  R.filter fun dev => dev.id ≠ id

def insert (R : Registry) (dev : Device) : Registry :=
  dev :: R.remove dev.id

def hasUsbWithUdid (R : Registry) (udid : String) : Bool :=
  R.any fun dev => dev.isUsb && dev.udid = udid

def hasNetworkWithUdid (R : Registry) (udid : String) : Bool :=
  R.any fun dev => dev.isNetwork && dev.udid = udid

def findNetworkByUdid (R : Registry) (udid : String) : Option Device :=
  R.find? fun dev => dev.isNetwork && dev.udid = udid

def findNetworkIdByUdid (R : Registry) (udid : String) : Option UInt64 :=
  (R.findNetworkByUdid udid).map Device.id

def isShadowed (R : Registry) (dev : Device) : Bool :=
  match dev with
  | .network ndev => R.hasUsbWithUdid ndev.udid
  | .usb _ => false

def visible (R : Registry) : Finset UInt64 :=
  ((R.filter fun dev => !R.isShadowed dev).map Device.id).toFinset

/-!
## Operations
-/

def usbConnected (R : Registry) (device : UsbDevice) : Effect :=
  let events :=
    match R.findNetworkIdByUdid device.udid with
    | some ndevId => [.detached ndevId]
    | none => []
  let kept := R.filter fun dev => dev.isNetwork || dev.udid ≠ device.udid
  (insert kept (.usb device), events ++ [.attached device.id])

/-- `remove_device`, which answers `UsbEvent::Disconnected`. -/
def removeDevice (R : Registry) (id : UInt64) :
    Except RusbmuxError (Device × Effect) :=
  match R.get id with
  | none => .error (.deviceNotFound id)
  | some device =>
      let rest := R.remove id
      let events :=
        match device with
        | .usb dev =>
            match rest.findNetworkIdByUdid dev.udid with
            | some ndevId => [.attached ndevId, .detached id]
            | none => [.detached id]
        | .network dev =>
            if rest.hasUsbWithUdid dev.udid then [] else [.detached dev.id]
      .ok (device, rest, events)

def usbDisconnected (R : Registry) (id : UInt64) : Effect :=
  match R.removeDevice id with
  | .ok (_, effect) => effect
  | .error _ => (R, [])

def networkConnected (R : Registry) (dev : NetworkDevice) : Effect :=
  if R.hasNetworkWithUdid dev.udid then (R, [])
  else
    let next := insert R (.network dev)
    (next, if next.hasUsbWithUdid dev.udid then [] else [.attached dev.id])

def networkDisconnected (R : Registry) (id : UInt64) : Effect :=
  match R.get id with
  | none => (R, [])
  | some device =>
      let rest := R.remove id
      (rest, if rest.hasUsbWithUdid device.udid then [] else [.detached id])

/--
`add_device`, once the pairing file of the device is read: `opened` is the
outcome of opening the new device.
-/
def addPaired (R : Registry) (device : NetworkDevice) (force : Bool)
    (opened : Except RusbmuxError Unit) : Effect × Except RusbmuxError Unit :=
  let add (R : Registry) : Effect :=
    let next := insert R (.network device)
    (next, if next.hasUsbWithUdid device.udid then [] else [.attached device.id])
  match R.findNetworkByUdid device.udid with
  | none =>
      match opened with
      | .error err => ((R, []), .error err)
      | .ok () => (add R, .ok ())
  | some old =>
      if !force then ((R, []), .ok ())
      else
        match opened with
        | .error err => ((insert (R.remove old.id) old, [.detached old.id]), .error err)
        | .ok () =>
            let effect := add (R.remove old.id)
            ((effect.fst, .detached old.id :: effect.snd), .ok ())

def addDevice (R : Registry) (pairing : Except RusbmuxError Unit)
    (device : NetworkDevice) (force : Bool) (opened : Except RusbmuxError Unit) :
    Effect × Except RusbmuxError Unit :=
  match pairing with
  | .error err => ((R, []), .error err)
  | .ok () => R.addPaired device force opened

end Registry

end Watcher
end Rusbmux
