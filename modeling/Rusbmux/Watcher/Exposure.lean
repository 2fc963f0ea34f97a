import Mathlib.Logic.Function.Basic
import Rusbmux.Foundation.Machine
import Rusbmux.Watcher.RegistryView

/-!
# Handlers that interleave on the registry

The USB watcher, the network watcher and the requests that add devices, each as
the steps it takes one at a time: one operation on the registry, one event, or
one wait.  A client that listens subscribes to the events, walks the registry
while it goes on changing, and then takes its events one by one.
-/

namespace Rusbmux
namespace Watcher

open Foundation

inductive UsbHandler where
  | idle
  | announcing (device : UsbDevice) (found : Option UInt64)
  | retaining (device : UsbDevice)
  | inserting (device : UsbDevice)
  | attaching (device : UsbDevice)
  /-- `remove_device`, after the device was removed. -/
  | shuttingDown (device : Device)
  | reattaching (device : UsbDevice) (found : Option UInt64)
  | detaching (id : UInt64)
deriving DecidableEq, Repr

inductive Publisher where
  | inserting (dev : NetworkDevice)
  | checking (dev : NetworkDevice)
  | attaching (dev : NetworkDevice)
deriving DecidableEq, Repr

inductive NetworkHandler where
  | idle
  | publishing (publisher : Publisher)
  | shuttingDown (device : Device)
  | detaching (id : UInt64)
deriving DecidableEq, Repr

inductive AddHandler where
  | detaching (udid : String) (old : UInt64)
  | removing (udid : String) (old : UInt64)
  | opening (udid : String) (old : Option Device)
  | restoring (old : Device)
  | publishing (publisher : Publisher)
  | done
deriving DecidableEq, Repr

def NetworkHandler.ofPublisher : Option Publisher -> NetworkHandler
  | some publisher => .publishing publisher
  | none => .idle

def AddHandler.ofPublisher : Option Publisher -> AddHandler
  | some publisher => .publishing publisher
  | none => .done

def UsbHandler.connects : UsbHandler -> Option String
  | .announcing device _ | .retaining device | .inserting device =>
      some device.udid
  | .idle | .attaching _ | .shuttingDown _ | .reattaching _ _
  | .detaching _ => none

def UsbHandler.detaches : UsbHandler -> Option UInt64
  | .announcing _ found => found
  | .shuttingDown device => some device.id
  | .reattaching device _ => some device.id
  | .detaching id => some id
  | .idle | .retaining _ | .inserting _ | .attaching _ => none

def NetworkHandler.detaches : NetworkHandler -> Option UInt64
  | .shuttingDown device => some device.id
  | .detaching id => some id
  | .idle | .publishing _ => none

def AddHandler.detaches : AddHandler -> Option UInt64
  | .detaching _ old => some old
  | .removing _ _ | .opening _ _ | .restoring _ | .publishing _
  | .done => none

def AddHandler.replaces : AddHandler -> Option UInt64
  | .removing _ old => some old
  | .opening _ old => old.map Device.id
  | .restoring old => some old.id
  | .detaching _ _ | .publishing _ | .done => none

inductive ListenerPhase where
  | subscribed
  | walking (due visited : List UInt64)
  | following
deriving DecidableEq, Repr

structure Listener where
  phase : ListenerPhase := .subscribed
  held : List Device := []
  queue : List DeviceEvent := []

def Registry.heard (R : Registry) (held : List Device) :
    DeviceEvent -> List Device
  | .attached id =>
      match R.get id with
      | some device => device :: held.filter fun dev => dev.id ≠ id
      | none => held
  | .detached id => held.filter fun dev => dev.id ≠ id

structure Exposure where
  registry : Registry := []
  known : List Device := []
  usb : UsbHandler := .idle
  network : NetworkHandler := .idle
  adds : Nat -> Option AddHandler := fun _ => none
  listener : Option Listener := none

namespace Exposure

def hotplugCapacity : Nat := 32

inductive Action where
  | usbConnected (device : UsbDevice)
  | usbDisconnected (id : UInt64)
  | usbStep
  | networkConnected (dev : NetworkDevice)
  | networkDisconnected (id : UInt64)
  | networkStep
  | addDevice (request : Nat) (udid : String) (force : Bool)
  | addStep (request : Nat)
  /-- `Device::new_network` ends. -/
  | addOpened (request : Nat) (opened : Except RusbmuxError NetworkDevice)
  | subscribe
  | walk
  | visit (id : UInt64)
  | finishWalk
  | receive
  | leave

def send (s : Exposure) (event : DeviceEvent) : Exposure :=
  { s with
    listener := s.listener.map fun l => { l with queue := l.queue ++ [event] } }

def sendSome (s : Exposure) : Option DeviceEvent -> Exposure
  | some event => s.send event
  | none => s

def register (s : Exposure) (dev : Device) : Exposure :=
  { s with
    registry := Registry.insert s.registry dev
    known := dev :: s.known }

/-- An id is given to one device, which may come back if it is a USB device. -/
def permitsUsb (s : Exposure) (device : UsbDevice) : Bool :=
  s.known.all fun dev =>
    dev.id ≠ device.id || (dev.isUsb && dev.udid = device.udid)

def permitsNetwork (s : Exposure) (dev : NetworkDevice) : Bool :=
  s.known.all fun other => other.id ≠ dev.id

/-!
## The USB watcher
-/

def usbConnected (s : Exposure) (device : UsbDevice) : Option Exposure :=
  match s.usb with
  | .idle =>
      some { s with
        usb := .announcing device
          (s.registry.findNetworkIdByUdid device.udid) }
  | _ => none

def usbDisconnected (s : Exposure) (id : UInt64) : Option Exposure :=
  match s.usb, s.registry.get id with
  | .idle, none => some s
  | .idle, some (.usb device) =>
      some { s with
        registry := s.registry.remove id
        usb := .shuttingDown (.usb device) }
  | _, _ => none

def usbStep (s : Exposure) : Option Exposure :=
  match s.usb with
  | .idle => none
  | .announcing device found =>
      some { s.sendSome (found.map .detached) with usb := .retaining device }
  | .retaining device =>
      some { s with
        registry := s.registry.filter fun dev =>
          dev.isNetwork || dev.udid ≠ device.udid
        usb := .inserting device }
  | .inserting device =>
      if s.permitsUsb device then
        some { s.register (.usb device) with usb := .attaching device }
      else
        none
  | .attaching device =>
      some { s.send (.attached device.id) with usb := .idle }
  | .shuttingDown (.usb device) =>
      some { s with
        usb := .reattaching device
          (s.registry.findNetworkIdByUdid device.udid) }
  | .shuttingDown (.network dev) =>
      some { s with
        usb := if s.registry.hasUsbWithUdid dev.udid then .idle
          else .detaching dev.id }
  | .reattaching device found =>
      some { s.sendSome (found.map .attached) with
        usb := .detaching device.id }
  | .detaching id => some { s.send (.detached id) with usb := .idle }

/-!
## The network watcher
-/

def publish (s : Exposure) : Publisher -> Option (Exposure × Option Publisher)
  | .inserting dev =>
      if s.permitsNetwork dev then
        some (s.register (.network dev), some (.checking dev))
      else
        none
  | .checking dev =>
      some (s, if s.registry.hasUsbWithUdid dev.udid then none
        else some (.attaching dev))
  | .attaching dev => some (s.send (.attached dev.id), none)

def networkConnected (s : Exposure) (dev : NetworkDevice) : Option Exposure :=
  match s.network with
  | .idle =>
      if s.registry.hasNetworkWithUdid dev.udid then some s
      else some { s with network := .publishing (.inserting dev) }
  | _ => none

def networkDisconnected (s : Exposure) (id : UInt64) : Option Exposure :=
  match s.network, s.registry.get id with
  | .idle, none => some s
  | .idle, some (.network dev) =>
      some { s with
        registry := s.registry.remove id
        network := .shuttingDown (.network dev) }
  | _, _ => none

def networkStep (s : Exposure) : Option Exposure :=
  match s.network with
  | .idle => none
  | .publishing publisher =>
      (s.publish publisher).map fun published =>
        { published.fst with
          network := NetworkHandler.ofPublisher published.snd }
  | .shuttingDown device =>
      some { s with
        network := if s.registry.hasUsbWithUdid device.udid then .idle
          else .detaching device.id }
  | .detaching id => some { s.send (.detached id) with network := .idle }

/-!
## Requests that add a device
-/

def setAdd (s : Exposure) (request : Nat) (handler : AddHandler) : Exposure :=
  { s with adds := Function.update s.adds request (some handler) }

def addDevice (s : Exposure) (request : Nat) (udid : String) (force : Bool) :
    Option Exposure :=
  match s.adds request with
  | none =>
      match s.registry.findNetworkIdByUdid udid with
      | none => some (s.setAdd request (.opening udid none))
      | some old =>
          if force then some (s.setAdd request (.detaching udid old))
          else some (s.setAdd request .done)
  | some _ => none

def addStep (s : Exposure) (request : Nat) : Option Exposure :=
  match s.adds request with
  | some (.detaching udid old) =>
      some ((s.send (.detached old)).setAdd request (.removing udid old))
  | some (.removing udid old) =>
      some ({ s with registry := s.registry.remove old }.setAdd request
        (.opening udid (s.registry.get old)))
  | some (.restoring old) => some ((s.register old).setAdd request .done)
  | some (.publishing publisher) =>
      (s.publish publisher).map fun published =>
        published.fst.setAdd request (AddHandler.ofPublisher published.snd)
  | some (.opening _ _) | some .done | none => none

def addOpened (s : Exposure) (request : Nat)
    (opened : Except RusbmuxError NetworkDevice) : Option Exposure :=
  match s.adds request, opened with
  | some (.opening udid _), .ok dev =>
      if dev.udid = udid then
        some (s.setAdd request (.publishing (.inserting dev)))
      else
        none
  | some (.opening _ (some old)), .error _ =>
      some (s.setAdd request (.restoring old))
  | some (.opening _ none), .error _ => some (s.setAdd request .done)
  | _, _ => none

/-!
## The listener
-/

def subscribe (s : Exposure) : Option Exposure :=
  match s.listener with
  | none => some { s with listener := some {} }
  | some _ => none

def walk (s : Exposure) : Option Exposure :=
  match s.listener with
  | some ⟨.subscribed, held, queue⟩ =>
      some { s with
        listener := some ⟨.walking (s.registry.map Device.id) [], held, queue⟩ }
  | _ => none

def visit (s : Exposure) (id : UInt64) : Option Exposure :=
  match s.listener, s.registry.get id with
  | some ⟨.walking due visited, held, queue⟩, some device =>
      if id ∈ visited then none
      else
        some { s with
          listener := some
            { phase := .walking due (id :: visited)
              held := if s.registry.isShadowed device then held
                else device :: held
              queue := queue } }
  | _, _ => none

def finishWalk (s : Exposure) : Option Exposure :=
  match s.listener with
  | some ⟨.walking due visited, held, queue⟩ =>
      if due.all fun id => id ∈ visited || (s.registry.get id).isNone then
        some { s with listener := some ⟨.following, held, queue⟩ }
      else
        none
  | _ => none

/-- A listener that is too many events behind ends. -/
def receive (s : Exposure) : Option Exposure :=
  match s.listener with
  | some ⟨.following, held, event :: rest⟩ =>
      if (event :: rest).length > hotplugCapacity then
        some { s with listener := none }
      else
        some { s with
          listener := some ⟨.following, s.registry.heard held event, rest⟩ }
  | _ => none

def step : Machine Exposure Action := fun s a =>
  match a with
  | .usbConnected device => s.usbConnected device
  | .usbDisconnected id => s.usbDisconnected id
  | .usbStep => s.usbStep
  | .networkConnected dev => s.networkConnected dev
  | .networkDisconnected id => s.networkDisconnected id
  | .networkStep => s.networkStep
  | .addDevice request udid force => s.addDevice request udid force
  | .addStep request => s.addStep request
  | .addOpened request opened => s.addOpened request opened
  | .subscribe => s.subscribe
  | .walk => s.walk
  | .visit id => s.visit id
  | .finishWalk => s.finishWalk
  | .receive => s.receive
  | .leave => some { s with listener := none }

/-!
## One exposure for each UDID
-/

structure Idle (s : Exposure) : Prop where
  usb : s.usb = .idle
  network : s.network = .idle
  adds : forall request handler, s.adds request = some handler ->
    handler = .done
  listener : forall l, s.listener = some l ->
    l.phase = .following ∧ l.queue = []

def OnePerUdid (devices : List Device) : Prop :=
  forall d e, d ∈ devices -> e ∈ devices -> d.udid = e.udid -> d.id = e.id

/-- A listing and a listener show one id for each UDID. -/
def OneExposure (s : Exposure) : Prop :=
  s.Idle ->
    OnePerUdid (s.registry.filter fun dev => !s.registry.isShadowed dev) ∧
      forall l, s.listener = some l -> OnePerUdid l.held

/-!
## Steps that expose one device
-/

def UsbTakes (s : Exposure) (udid : String) : Prop :=
  s.registry.UsbHas udid ∨ s.usb.connects = some udid

def Pending (s : Exposure) (id : UInt64) : Prop :=
  s.usb.detaches = some id ∨ s.network.detaches = some id ∨
    exists request handler, s.adds request = some handler ∧
      handler.detaches = some id

def Replaced (s : Exposure) (id : UInt64) : Prop :=
  exists request handler, s.adds request = some handler ∧
    handler.replaces = some id

/--
To show the device is right: it is not being replaced, and no USB device takes
its UDID, or its detachment is still to be sent.
-/
def Showable (s : Exposure) (id : UInt64) : Prop :=
  ¬ s.Replaced id ∧
    forall n, Device.network n ∈ s.registry -> n.id = id ->
      s.UsbTakes n.udid -> s.Pending id

def settled (R : Registry) (held : List Device) (queue : List DeviceEvent) :
    List Device :=
  queue.foldl R.heard held

def Holds (devices : List Device) (id : UInt64) : Prop :=
  exists d, d ∈ devices ∧ d.id = id

def NoNetwork (s : Exposure) (udid : String) : Prop :=
  forall n, Device.network n ∈ s.registry -> n.udid ≠ udid

def PublishesOne (s : Exposure) : Publisher -> Prop
  | .inserting dev => s.NoNetwork dev.udid
  | .checking _ => True
  | .attaching dev => s.listener = none ∨ s.Showable dev.id

/--
A network device is registered while no other has its UDID, and shown, by an
event or to a walking listener, only if that is right; while somebody listens, a
USB device finds no other with its UDID registered, and the detachment of a
network device is left out only if the listener is not left with it.
-/
def ExposesOne (s : Exposure) : Action -> Prop
  | .usbStep =>
      match s.usb with
      | .retaining device =>
          s.listener = none ∨ forall u, Device.usb u ∈ s.registry ->
            u.udid = device.udid -> u.id = device.id
      | .reattaching _ (some found) => s.listener = none ∨ s.Showable found
      | _ => True
  | .networkStep =>
      match s.network with
      | .publishing publisher => s.PublishesOne publisher
      | .shuttingDown device =>
          forall l, s.listener = some l -> s.registry.UsbHas device.udid ->
            ¬ Holds (settled s.registry l.held l.queue) device.id
      | _ => True
  | .addStep request =>
      match s.adds request with
      | some (.restoring old) => s.NoNetwork old.udid
      | some (.publishing publisher) => s.PublishesOne publisher
      | _ => True
  | .visit id =>
      forall l device, s.listener = some l -> s.registry.get id = some device ->
        s.registry.isShadowed device = false ->
        Holds (settled s.registry (device :: l.held) l.queue) id ->
          s.Showable id
  | _ => True

end Exposure

end Watcher
end Rusbmux
