import Mathlib.Data.List.Induction
import Rusbmux.Error
import Rusbmux.Foundation.Transcript

/-!
# The endpoints of a device

`device_endpoints` of the two USB backends.  Both look for the usbmux interface
in the descriptors of a device, make its configuration the active one and claim
it.  `nusb` takes the first setting of the last configuration that has one, and
its first bulk endpoints; `rusb` goes through all configurations and keeps what
it has seen last.
-/

namespace Rusbmux
namespace UsbBackend

open Foundation

inductive Direction where
  | fromDevice
  | toDevice
deriving DecidableEq, Repr

inductive TransferType where
  | control
  | isochronous
  | bulk
  | interrupt
deriving DecidableEq, Repr

structure EndpointDescriptor where
  address : UInt8
  direction : Direction
  transferType : TransferType
  maxPacketSize : UInt16
deriving DecidableEq, Repr

structure InterfaceDescriptor where
  interfaceNumber : UInt8
  alternateSetting : UInt8
  classCode : UInt8
  subclass : UInt8
  protocol : UInt8
  endpoints : List EndpointDescriptor
deriving DecidableEq, Repr

/-- A configuration, with the alternate settings of each interface. -/
structure Configuration where
  configurationValue : UInt8
  interfaces : List (List InterfaceDescriptor)
deriving DecidableEq, Repr

def appleUsbmuxClass : UInt8 := 255
def appleUsbmuxSubclass : UInt8 := 254
def appleUsbmuxProtocol : UInt8 := 2

def InterfaceDescriptor.isUsbmux (intf : InterfaceDescriptor) : Bool :=
  intf.classCode = appleUsbmuxClass && intf.subclass = appleUsbmuxSubclass &&
    intf.protocol = appleUsbmuxProtocol

def Configuration.interfaceAltSettings (cfg : Configuration) :
    List InterfaceDescriptor :=
  cfg.interfaces.flatten

inductive UsbRequest where
  | detachKernelDriver (interfaceNumber : UInt8)
  | setConfiguration (value : UInt8)
  | claimInterface (interfaceNumber : UInt8)
deriving DecidableEq, Repr

/-- What a library answers; an error is the text of its own error. -/
structure UsbHost where
  activeConfiguration : Option UInt8
  setConfiguration : UInt8 -> Except String Unit
  claimInterface : UInt8 -> Except String Unit
  /-- Only `nusb` opens the endpoints of the interface that was claimed. -/
  endpoint : UInt8 -> Except String Unit

abbrev UsbRequests : Type -> Type := Transcript UsbRequest RusbmuxError

namespace UsbHost

variable (raise : String -> RusbmuxError) (host : UsbHost)

def current : UInt8 := host.activeConfiguration.getD 0

def set (value : UInt8) : UsbRequests Unit where
  written := [.setConfiguration value]
  result := (host.setConfiguration value).mapError raise

def claim (interfaceNumber : UInt8) : UsbRequests Unit where
  written := [.claimInterface interfaceNumber]
  result := (host.claimInterface interfaceNumber).mapError raise

/-- Zero means that no configuration is active. -/
def switches (value : UInt8) : Bool :=
  value ≠ host.current || host.current = 0

end UsbHost

/-- A failure to detach a driver is only logged. -/
def detach (interfaceNumbers : List UInt8) : UsbRequests Unit where
  written := interfaceNumbers.map .detachKernelDriver
  result := .ok ()

def switchTo (raise : String -> RusbmuxError) (host : UsbHost) (value : UInt8)
    (detached : List UInt8) : UsbRequests Unit :=
  if host.switches value then do
    detach detached
    host.set raise value
  else
    pure ()

def okOr {value : Type} (err : RusbmuxError) (v : Option value) :
    UsbRequests value :=
  .lift (v.elim (.error err) .ok)

/-!
## `nusb`
-/

namespace Nusb

def findInterface (configurations : List Configuration) :
    Option (Configuration × InterfaceDescriptor) :=
  configurations.reverse.findSome? fun cfg =>
    (cfg.interfaceAltSettings.find? fun intf => intf.isUsbmux).map fun intf =>
      (cfg, intf)

def findEndpoint (intf : InterfaceDescriptor) (direction : Direction) :
    Option EndpointDescriptor :=
  intf.endpoints.find? fun ep =>
    ep.direction = direction && ep.transferType = .bulk

def interfaceNumbers (cfg : Configuration) : List UInt8 :=
  (cfg.interfaceAltSettings.filter fun intf =>
    intf.alternateSetting = 0).map InterfaceDescriptor.interfaceNumber

def opened (host : UsbHost) (endIn endOut : UInt8) :
    Except RusbmuxError (UInt8 × UInt8) := do
  (host.endpoint endIn).mapError .usb
  (host.endpoint endOut).mapError .usb
  pure (endIn, endOut)

def openEndpoints (host : UsbHost) (intf : InterfaceDescriptor) :
    UsbRequests (UInt8 × UInt8) := do
  let endOut <- okOr .bulkOutEndpointNotFound (findEndpoint intf .toDevice)
  let endIn <- okOr .bulkInEndpointNotFound (findEndpoint intf .fromDevice)
  .lift (opened host endIn.address endOut.address)

def deviceEndpoints (host : UsbHost) (configurations : List Configuration) :
    UsbRequests (UInt8 × UInt8) := do
  let (cfg, intf) <- okOr .usbmuxInterfaceNotFound
    (findInterface configurations)
  switchTo .usb host cfg.configurationValue (interfaceNumbers cfg)
  host.claim .usb intf.interfaceNumber
  openEndpoints host intf

end Nusb

/-!
## `rusb`
-/

namespace Rusb

structure Found where
  intf : Option UInt8 := none
  cfgNum : Option UInt8 := none
  inAddr : Option UInt8 := none
  outAddr : Option UInt8 := none
  outMaxPacketSize : Option UInt16 := none

namespace Found

def endpoint (found : Found) (ep : EndpointDescriptor) : Found :=
  match ep.direction with
  | .fromDevice => { found with inAddr := some ep.address }
  | .toDevice =>
      { found with
        outAddr := some ep.address
        outMaxPacketSize := some ep.maxPacketSize }

def setting (value : UInt8) (found : Found) (alt : InterfaceDescriptor) :
    Found :=
  alt.endpoints.foldl endpoint
    { found with intf := some alt.interfaceNumber, cfgNum := some value }

/-- The search goes on with the next interface after a usbmux setting. -/
def interface (value : UInt8) (found : Found)
    (descriptors : List InterfaceDescriptor) : Found :=
  match descriptors.find? fun alt => alt.isUsbmux with
  | some alt => found.setting value alt
  | none => found

def configuration (found : Found) (cfg : Configuration) : Found :=
  cfg.interfaces.foldl (interface cfg.configurationValue) found

end Found

/-- A configuration descriptor that cannot be read ends the search. -/
def search : Found -> List (Except RusbmuxError Configuration) ->
    Except RusbmuxError Found
  | found, [] => .ok found
  | _, .error err :: _ => .error err
  | found, .ok cfg :: rest => search (found.configuration cfg) rest

def deviceEndpoints (linux : Bool) (host : UsbHost)
    (configurations :
      Except RusbmuxError (List (Except RusbmuxError Configuration))) :
    UsbRequests (UInt8 × UInt8 × UInt16) := do
  let configurations <- .lift configurations
  let found <- .lift (search {} configurations)
  let intfNum <- okOr .usbmuxInterfaceNotFound found.intf
  let cfgNum := found.cfgNum.getD 1
  let endIn <- okOr .bulkInEndpointNotFound found.inAddr
  let endOut <- okOr .bulkOutEndpointNotFound found.outAddr
  let maxPacketSize := found.outMaxPacketSize.getD 512
  switchTo .rusbError host cfgNum (if linux then [intfNum] else [])
  host.claim .rusbError intfNum
  pure (endIn, endOut, maxPacketSize)

end Rusb

/-!
## What the searches find
-/

def Configuration.usbmuxSettings (cfg : Configuration) :
    List InterfaceDescriptor :=
  cfg.interfaces.filterMap fun descriptors =>
    descriptors.find? fun alt => alt.isUsbmux

theorem find_interfaceAltSettings (cfg : Configuration) :
    (cfg.interfaceAltSettings.find? fun intf => intf.isUsbmux) =
      cfg.usbmuxSettings.head? := by
  unfold Configuration.interfaceAltSettings Configuration.usbmuxSettings
  rw [List.find?_flatten, List.head?_filterMap]

namespace Nusb

theorem findInterface_append (front : List Configuration)
    (cfg : Configuration) :
    findInterface (front ++ [cfg]) =
      match cfg.usbmuxSettings.head? with
      | some intf => some (cfg, intf)
      | none => findInterface front := by
  unfold findInterface
  rw [List.reverse_append, List.reverse_singleton, List.singleton_append,
    List.findSome?_cons, find_interfaceAltSettings]
  cases cfg.usbmuxSettings.head? with
  | none => rfl
  | some intf => rfl

end Nusb

namespace Rusb

theorem configuration_eq (found : Found) (cfg : Configuration) :
    found.configuration cfg =
      cfg.usbmuxSettings.foldl (Found.setting cfg.configurationValue)
        found := by
  unfold Found.configuration Configuration.usbmuxSettings
  rw [List.foldl_filterMap]
  apply congrArg fun visit => cfg.interfaces.foldl visit found
  funext found descriptors
  unfold Found.interface
  cases descriptors.find? fun alt => alt.isUsbmux with
  | none => rfl
  | some alt => rfl

theorem search_ok (found : Found) (configurations : List Configuration) :
    search found (configurations.map .ok) =
      .ok (configurations.foldl Found.configuration found) := by
  induction configurations generalizing found with
  | nil => rfl
  | cons cfg rest ih => exact ih (found.configuration cfg)

theorem endpoints_eq (endpoints : List EndpointDescriptor) (found : Found) :
    endpoints.foldl Found.endpoint found =
      { found with
        inAddr := (((endpoints.filter fun ep =>
          ep.direction = .fromDevice).getLast?.map
            EndpointDescriptor.address).or found.inAddr)
        outAddr := (((endpoints.filter fun ep =>
          ep.direction = .toDevice).getLast?.map
            EndpointDescriptor.address).or found.outAddr)
        outMaxPacketSize := (((endpoints.filter fun ep =>
          ep.direction = .toDevice).getLast?.map
            EndpointDescriptor.maxPacketSize).or found.outMaxPacketSize) } := by
  induction endpoints using List.reverseRecOn with
  | nil => rfl
  | append_singleton front ep ih =>
      rw [List.foldl_append, ih, List.foldl_cons, List.foldl_nil,
        List.filter_append, List.filter_append]
      unfold Found.endpoint
      cases hdirection : ep.direction with
      | fromDevice => simp [hdirection]
      | toDevice => simp [hdirection]

end Rusb

/-!
## Devices on which the backends agree
-/

structure InterfaceDescriptor.OneEachWay (intf : InterfaceDescriptor)
    (endIn endOut : EndpointDescriptor) : Prop where
  fromDevice : (intf.endpoints.filter fun ep =>
    ep.direction = .fromDevice) = [endIn]
  toDevice : (intf.endpoints.filter fun ep =>
    ep.direction = .toDevice) = [endOut]
  bulkIn : endIn.transferType = .bulk
  bulkOut : endOut.transferType = .bulk

/-- One interface is for usbmux, with an endpoint for each direction. -/
def Configuration.Conventional (cfg : Configuration) : Prop :=
  exists intf endIn endOut, cfg.usbmuxSettings = [intf] ∧
    intf.OneEachWay endIn endOut

def lastUsbmux (configurations : List Configuration) : Option Configuration :=
  (configurations.filter fun cfg => !cfg.usbmuxSettings.isEmpty).getLast?

theorem lastUsbmux_append (front : List Configuration) (cfg : Configuration) :
    lastUsbmux (front ++ [cfg]) =
      if cfg.usbmuxSettings = [] then lastUsbmux front else some cfg := by
  unfold lastUsbmux
  rw [List.filter_append, List.filter_singleton]
  cases cfg.usbmuxSettings with
  | nil =>
      show (_ ++ []).getLast? = _
      rw [List.append_nil]
      rfl
  | cons intf rest => exact List.getLast?_concat

theorem findEndpoint_eq {intf : InterfaceDescriptor} {direction : Direction}
    {ep : EndpointDescriptor}
    (honly : (intf.endpoints.filter fun ep => ep.direction = direction) = [ep])
    (hbulk : ep.transferType = .bulk) :
    Nusb.findEndpoint intf direction = some ep := by
  have hfind : (intf.endpoints.filter fun ep => ep.direction = direction).find?
      (fun ep => ep.transferType = .bulk) = some ep := by
    rw [honly]
    simp [hbulk]
  rw [List.find?_filter] at hfind
  rw [← hfind]
  simp [Nusb.findEndpoint]

theorem setting_eq {intf : InterfaceDescriptor}
    {endIn endOut : EndpointDescriptor} (h : intf.OneEachWay endIn endOut)
    (value : UInt8) (found : Rusb.Found) :
    found.setting value intf =
      { intf := some intf.interfaceNumber
        cfgNum := some value
        inAddr := some endIn.address
        outAddr := some endOut.address
        outMaxPacketSize := some endOut.maxPacketSize } := by
  unfold Rusb.Found.setting
  rw [Rusb.endpoints_eq, h.fromDevice, h.toDevice]
  rfl

theorem searches_agree {configurations : List Configuration}
    (h : forall cfg, lastUsbmux configurations = some cfg ->
      cfg.Conventional) :
    (lastUsbmux configurations = none ∧
        Nusb.findInterface configurations = none ∧
        configurations.foldl Rusb.Found.configuration {} = {}) ∨
      exists cfg intf endIn endOut,
        lastUsbmux configurations = some cfg ∧
          Nusb.findInterface configurations = some (cfg, intf) ∧
          intf.OneEachWay endIn endOut ∧
          configurations.foldl Rusb.Found.configuration {} =
            { intf := some intf.interfaceNumber
              cfgNum := some cfg.configurationValue
              inAddr := some endIn.address
              outAddr := some endOut.address
              outMaxPacketSize := some endOut.maxPacketSize } := by
  induction configurations using List.reverseRecOn with
  | nil => exact Or.inl ⟨rfl, rfl, rfl⟩
  | append_singleton front cfg ih =>
      rw [lastUsbmux_append] at h ⊢
      rw [Nusb.findInterface_append, List.foldl_append, List.foldl_cons,
        List.foldl_nil, Rusb.configuration_eq]
      by_cases hnone : cfg.usbmuxSettings = []
      · rw [if_pos hnone] at h ⊢
        rw [hnone]
        exact ih h
      · rw [if_neg hnone] at h ⊢
        rcases h cfg rfl with ⟨intf, endIn, endOut, hone, hends⟩
        rw [hone]
        exact Or.inr ⟨cfg, intf, endIn, endOut, rfl, rfl, hends,
          setting_eq hends cfg.configurationValue _⟩

/-!
## What the backends do
-/

def UsbRequest.isDetach : UsbRequest -> Bool
  | .detachKernelDriver _ => true
  | .setConfiguration _ | .claimInterface _ => false

def withoutDetach {value : Type} (t : UsbRequests value) : UsbRequests value :=
  t.keep fun request => !request.isDetach

theorem withoutDetach_bind {value value' : Type} (t : UsbRequests value)
    (f : value -> UsbRequests value') :
    withoutDetach (t >>= f) =
      withoutDetach t >>= fun v => withoutDetach (f v) :=
  Transcript.keep_bind _ t f

theorem withoutDetach_switchTo (raise : String -> RusbmuxError)
    (host : UsbHost) (value : UInt8) (detached : List UInt8) :
    withoutDetach (switchTo raise host value detached) =
      if host.switches value then host.set raise value else pure () := by
  unfold switchTo
  cases host.switches value with
  | false => rfl
  | true =>
      have hnone : (detached.map UsbRequest.detachKernelDriver).filter
          (fun request => !request.isDetach) = [] := by
        simp [UsbRequest.isDetach]
      have hdetach : withoutDetach (detach detached) = pure () :=
        congrArg (fun written => Transcript.mk written (.ok ())) hnone
      rw [if_pos rfl, if_pos rfl, withoutDetach_bind, hdetach]
      rfl

theorem nusb_eq {configurations : List Configuration} {cfg : Configuration}
    {intf : InterfaceDescriptor} {endIn endOut : EndpointDescriptor}
    (hfind : Nusb.findInterface configurations = some (cfg, intf))
    (hends : intf.OneEachWay endIn endOut) (host : UsbHost) :
    Nusb.deviceEndpoints host configurations = (do
      switchTo .usb host cfg.configurationValue (Nusb.interfaceNumbers cfg)
      host.claim .usb intf.interfaceNumber
      .lift (Nusb.opened host endIn.address endOut.address)) := by
  unfold Nusb.deviceEndpoints Nusb.openEndpoints
  simp only [hfind, okOr, Option.elim_some, Transcript.lift_ok_bind,
    findEndpoint_eq hends.fromDevice hends.bulkIn,
    findEndpoint_eq hends.toDevice hends.bulkOut]

theorem rusb_eq {configurations : List Configuration} {cfgNum intfNum : UInt8}
    {endIn endOut : EndpointDescriptor}
    (hfound : configurations.foldl Rusb.Found.configuration {} =
      { intf := some intfNum
        cfgNum := some cfgNum
        inAddr := some endIn.address
        outAddr := some endOut.address
        outMaxPacketSize := some endOut.maxPacketSize })
    (linux : Bool) (host : UsbHost) :
    Rusb.deviceEndpoints linux host (.ok (configurations.map .ok)) = (do
      switchTo .rusbError host cfgNum (if linux then [intfNum] else [])
      host.claim .rusbError intfNum
      pure (endIn.address, endOut.address, endOut.maxPacketSize)) := by
  have hsearch := Rusb.search_ok {} configurations
  rw [hfound] at hsearch
  unfold Rusb.deviceEndpoints
  simp only [hsearch, okOr, Option.elim_some, Transcript.lift_ok_bind,
    Option.getD_some]

namespace UsbHost

def answer (host : UsbHost) : UsbRequest -> Except String Unit
  | .detachKernelDriver _ => .ok ()
  | .setConfiguration value => host.setConfiguration value
  | .claimInterface interfaceNumber => host.claimInterface interfaceNumber

def ask (raise : String -> RusbmuxError) (host : UsbHost)
    (request : UsbRequest) : UsbRequests Unit where
  written := [request]
  result := (host.answer request).mapError raise

/-- Two libraries on one system refuse the same, each in its own words. -/
structure Alike (nusb rusb : UsbHost) : Prop where
  activeConfiguration : nusb.activeConfiguration = rusb.activeConfiguration
  answer : forall request,
    (nusb.answer request).isOk = (rusb.answer request).isOk

end UsbHost

/--
The backends make the same requests.  The last one is refused and each returns
the error of its library, or they end with the same endpoints, which `nusb` has
still to open.
-/
inductive Agreement (nusb rusb : UsbHost) :
    UsbRequests (UInt8 × UInt8) -> UsbRequests (UInt8 × UInt8 × UInt16) ->
      Prop where
  | refused (granted : List UsbRequest) {request : UsbRequest}
      {text text' : String} (hnusb : nusb.answer request = .error text)
      (hrusb : rusb.answer request = .error text') :
      Agreement nusb rusb ⟨granted ++ [request], .error (.usb text)⟩
        ⟨granted ++ [request], .error (.rusbError text')⟩
  | claimed (granted : List UsbRequest) (endIn endOut : UInt8)
      (maxPacketSize : UInt16) :
      Agreement nusb rusb ⟨granted, Nusb.opened nusb endIn endOut⟩
        ⟨granted, .ok (endIn, endOut, maxPacketSize)⟩

variable {nusb rusb : UsbHost}

theorem Agreement.ask (h : nusb.Alike rusb) (request : UsbRequest)
    {n : UsbRequests (UInt8 × UInt8)} {r : UsbRequests (UInt8 × UInt8 × UInt16)}
    (hrest : Agreement nusb rusb n r) :
    Agreement nusb rusb (nusb.ask .usb request >>= fun _ => n)
      (rusb.ask .rusbError request >>= fun _ => r) := by
  have hsame := h.answer request
  unfold UsbHost.ask
  cases hnusb : nusb.answer request with
  | ok v =>
      cases hrusb : rusb.answer request with
      | ok w =>
          cases hrest with
          | refused granted hn hr => exact .refused (request :: granted) hn hr
          | claimed granted endIn endOut maxPacketSize =>
              exact .claimed (request :: granted) endIn endOut maxPacketSize
      | error text =>
          rw [hnusb, hrusb] at hsame
          cases hsame
  | error text =>
      cases hrusb : rusb.answer request with
      | ok w =>
          rw [hnusb, hrusb] at hsame
          cases hsame
      | error text' => exact .refused [] hnusb hrusb

theorem agreement_claim (h : nusb.Alike rusb)
    (value intfNum endIn endOut : UInt8) (maxPacketSize : UInt16) :
    Agreement nusb rusb
      ((if nusb.switches value then nusb.set .usb value else pure ()) >>=
        fun _ => nusb.claim .usb intfNum >>=
          fun _ => .lift (Nusb.opened nusb endIn endOut))
      ((if rusb.switches value then rusb.set .rusbError value else pure ()) >>=
        fun _ => rusb.claim .rusbError intfNum >>=
          fun _ => pure (endIn, endOut, maxPacketSize)) := by
  have hdone : Agreement nusb rusb (.lift (Nusb.opened nusb endIn endOut))
      (pure (endIn, endOut, maxPacketSize)) :=
    .claimed [] endIn endOut maxPacketSize
  have hclaim := hdone.ask h (.claimInterface intfNum)
  have hswitches : nusb.switches value = rusb.switches value := by
    unfold UsbHost.switches UsbHost.current
    rw [h.activeConfiguration]
  rw [hswitches]
  cases rusb.switches value with
  | true => exact hclaim.ask h (.setConfiguration value)
  | false => exact hclaim

/--
On a device whose last usbmux configuration is conventional, the backends switch
to the same configuration, claim the same interface and end with the same
endpoints, or are refused the same.  Without one they ask nothing.
-/
theorem backends_agree (linux : Bool) (halike : nusb.Alike rusb)
    {configurations : List Configuration}
    (h : forall cfg, lastUsbmux configurations = some cfg ->
      cfg.Conventional) :
    let n := Nusb.deviceEndpoints nusb configurations
    let r := Rusb.deviceEndpoints linux rusb (.ok (configurations.map .ok))
    (lastUsbmux configurations = none ∧ n = .fail .usbmuxInterfaceNotFound ∧
        r = .fail .usbmuxInterfaceNotFound) ∨
      ((lastUsbmux configurations).isSome = true ∧
        Agreement nusb rusb (withoutDetach n) (withoutDetach r)) := by
  rcases searches_agree h with ⟨hlast, hnusb, hrusb⟩ |
    ⟨cfg, intf, endIn, endOut, hlast, hnusb, hends, hrusb⟩
  · have hsearch := Rusb.search_ok {} configurations
    rw [hrusb] at hsearch
    refine Or.inl ⟨hlast, ?_⟩
    unfold Nusb.deviceEndpoints Rusb.deviceEndpoints
    simp only [hnusb, hsearch, okOr, Transcript.lift_ok_bind]
    exact ⟨rfl, rfl⟩
  · refine Or.inr ⟨Option.isSome_of_eq_some hlast, ?_⟩
    rw [nusb_eq hnusb hends, rusb_eq hrusb]
    simp only [withoutDetach_bind, withoutDetach_switchTo]
    exact agreement_claim halike cfg.configurationValue intf.interfaceNumber
      endIn.address endOut.address endOut.maxPacketSize

def bulkIn : EndpointDescriptor := ⟨0x85, .fromDevice, .bulk, 512⟩
def bulkOut : EndpointDescriptor := ⟨0x04, .toDevice, .bulk, 512⟩

def usbmuxInterface : InterfaceDescriptor where
  interfaceNumber := 1
  alternateSetting := 0
  classCode := appleUsbmuxClass
  subclass := appleUsbmuxSubclass
  protocol := appleUsbmuxProtocol
  endpoints := [bulkOut, bulkIn]

def ptpInterface : InterfaceDescriptor where
  interfaceNumber := 0
  alternateSetting := 0
  classCode := 6
  subclass := 1
  protocol := 1
  endpoints :=
    [⟨0x81, .fromDevice, .bulk, 512⟩, ⟨0x02, .toDevice, .bulk, 512⟩,
      ⟨0x83, .fromDevice, .interrupt, 64⟩]

def phone : List Configuration :=
  [⟨1, [[ptpInterface]]⟩, ⟨4, [[ptpInterface], [usbmuxInterface]]⟩]

def busyHost (text : String) : UsbHost where
  activeConfiguration := some 1
  setConfiguration _ := .ok ()
  claimInterface _ := .error text
  endpoint _ := .ok ()

theorem alike_busyHost :
    (busyHost "interface is busy").Alike (busyHost "Resource busy") where
  activeConfiguration := rfl
  answer request := by cases request <;> rfl

theorem backends_agree_phone :
    let n := Nusb.deviceEndpoints (busyHost "interface is busy") phone
    let r := Rusb.deviceEndpoints true (busyHost "Resource busy")
      (.ok (phone.map .ok))
    ((lastUsbmux phone = none ∧ n = .fail .usbmuxInterfaceNotFound ∧
        r = .fail .usbmuxInterfaceNotFound) ∨
      ((lastUsbmux phone).isSome = true ∧
        Agreement (busyHost "interface is busy") (busyHost "Resource busy")
          (withoutDetach n) (withoutDetach r))) ∧
      withoutDetach n =
        { written := [.setConfiguration 4, .claimInterface 1]
          result := .error (.usb "interface is busy") } := by
  refine ⟨backends_agree true alike_busyHost ?_, rfl⟩
  intro cfg hcfg
  cases hcfg
  exact ⟨usbmuxInterface, bulkIn, bulkOut, rfl, ⟨rfl, rfl, rfl, rfl⟩⟩

/-!
## What the backends claim
-/

def IsActive (host : UsbHost) (written : List UsbRequest) (value : UInt8) :
    Prop :=
  (host.activeConfiguration = some value ∧ value ≠ 0) ∨
    (.setConfiguration value ∈ written ∧
      host.setConfiguration value = .ok ())

/-- Only usbmux interfaces of the active configuration are claimed. -/
def ClaimsUsbmux (host : UsbHost) (configurations : List Configuration)
    (written : List UsbRequest) : Prop :=
  forall intfNum, .claimInterface intfNum ∈ written ->
    exists cfg intf, cfg ∈ configurations ∧ intf ∈ cfg.interfaceAltSettings ∧
      intf.isUsbmux = true ∧ intf.interfaceNumber = intfNum ∧
        IsActive host written cfg.configurationValue

theorem isActive_switchTo {raise : String -> RusbmuxError} {host : UsbHost}
    {value : UInt8} {detached : List UInt8}
    (h : (switchTo raise host value detached).result = .ok ()) :
    IsActive host (switchTo raise host value detached).written value := by
  unfold switchTo at h ⊢
  cases hswitches : host.switches value with
  | true =>
      rw [hswitches] at h
      refine Or.inr ⟨List.mem_append_right _ (List.mem_singleton_self _), ?_⟩
      cases hset : host.setConfiguration value with
      | ok v => rfl
      | error text =>
          have hfails : (host.set raise value).result = .error (raise text) :=
            congrArg (Except.mapError raise) hset
          cases hfails.symm.trans h
  | false =>
      left
      simp only [UsbHost.switches, Bool.or_eq_false_iff,
        decide_eq_false_iff_not, not_not] at hswitches
      rcases hswitches with ⟨hvalue, hactive⟩
      unfold UsbHost.current at hvalue hactive
      cases hcurrent : host.activeConfiguration with
      | none =>
          rw [hcurrent] at hactive
          exact absurd rfl hactive
      | some current =>
          rw [hcurrent] at hvalue hactive
          rw [hvalue]
          exact ⟨rfl, hactive⟩

theorem not_claim_switchTo {raise : String -> RusbmuxError} {host : UsbHost}
    {value intfNum : UInt8} {detached : List UInt8} :
    .claimInterface intfNum ∉ (switchTo raise host value detached).written := by
  unfold switchTo
  split
  · show _ ∉ detached.map UsbRequest.detachKernelDriver ++ [_]
    simp
  · exact List.not_mem_nil

theorem IsActive.of_subset {host : UsbHost} {written more : List UsbRequest}
    {value : UInt8} (h : IsActive host written value)
    (hmore : forall m, m ∈ written -> m ∈ more) : IsActive host more value := by
  rcases h with hactive | ⟨hset, hok⟩
  · exact Or.inl hactive
  · exact Or.inr ⟨hmore _ hset, hok⟩

theorem claim_after_switchTo {raise : String -> RusbmuxError} {host : UsbHost}
    {value intfNum : UInt8} {detached : List UInt8} {result : Type}
    {rest : Unit -> UsbRequests result}
    (hrest : forall v, (rest v).WritesOnly fun _ => False) {other : UInt8}
    (hclaim : .claimInterface other ∈
      (switchTo raise host value detached >>= fun _ =>
        host.claim raise intfNum >>= rest).written) :
    other = intfNum ∧
      IsActive host (switchTo raise host value detached >>= fun _ =>
        host.claim raise intfNum >>= rest).written value := by
  rw [Transcript.written_bind] at hclaim ⊢
  cases hresult : (switchTo raise host value detached).result with
  | error err =>
      rw [hresult] at hclaim
      exact absurd hclaim not_claim_switchTo
  | ok v =>
      rw [hresult] at hclaim
      rcases List.mem_append.mp hclaim with hswitch | hclaim
      · exact absurd hswitch not_claim_switchTo
      · have honly : (host.claim raise intfNum >>= rest).WritesOnly fun m =>
            m = .claimInterface intfNum := by
          apply Transcript.WritesOnly.bind
          · intro m hm
            exact List.mem_singleton.mp hm
          · intro w m hm
            exact (hrest w m hm).elim
        cases honly _ hclaim
        exact ⟨rfl, (isActive_switchTo hresult).of_subset fun m hm =>
          List.mem_append_left _ hm⟩

namespace Nusb

theorem mem_of_findInterface {configurations : List Configuration}
    {cfg : Configuration} {intf : InterfaceDescriptor}
    (h : findInterface configurations = some (cfg, intf)) :
    cfg ∈ configurations ∧ intf ∈ cfg.interfaceAltSettings ∧
      intf.isUsbmux = true := by
  rcases List.exists_of_findSome?_eq_some h with ⟨found, hmem, hfound⟩
  rcases Option.map_eq_some_iff.mp hfound with ⟨alt, halt, hpair⟩
  cases hpair
  exact ⟨List.mem_reverse.mp hmem, List.mem_of_find?_eq_some halt,
    List.find?_some halt⟩

theorem openEndpoints_silent (host : UsbHost) (intf : InterfaceDescriptor) :
    (openEndpoints host intf).WritesOnly fun _ => False := by
  have hlift : forall {value : Type} (result : Except RusbmuxError value),
      (Transcript.lift result : UsbRequests value).WritesOnly fun _ => False :=
    fun result => Transcript.WritesOnly.lift result
  unfold openEndpoints okOr
  refine (hlift _).bind fun endOut => ?_
  refine (hlift _).bind fun endIn => ?_
  exact hlift _

theorem claimsUsbmux (host : UsbHost) (configurations : List Configuration) :
    ClaimsUsbmux host configurations
      (deviceEndpoints host configurations).written := by
  intro intfNum hclaim
  unfold deviceEndpoints at hclaim ⊢
  cases hfind : findInterface configurations with
  | none =>
      rw [hfind] at hclaim
      cases hclaim
  | some found =>
      rcases found with ⟨cfg, intf⟩
      rcases mem_of_findInterface hfind with ⟨hcfg, hintf, husbmux⟩
      simp only [hfind, okOr, Option.elim_some, Transcript.lift_ok_bind]
        at hclaim ⊢
      rcases claim_after_switchTo (fun _ => openEndpoints_silent host intf)
        hclaim with ⟨rfl, hactive⟩
      exact ⟨cfg, intf, hcfg, hintf, husbmux, rfl, hactive⟩

end Nusb

namespace Rusb

theorem search_eq_ok {found last : Found}
    {descriptors : List (Except RusbmuxError Configuration)}
    (h : search found descriptors = .ok last) :
    exists configurations : List Configuration,
      descriptors = configurations.map .ok ∧
        last = configurations.foldl Found.configuration found := by
  induction descriptors generalizing found with
  | nil =>
      cases h
      exact ⟨[], rfl, rfl⟩
  | cons descriptor rest ih =>
      cases descriptor with
      | error err => cases h
      | ok cfg =>
          rcases ih h with ⟨configurations, rfl, rfl⟩
          exact ⟨cfg :: configurations, rfl, rfl⟩

def Found.Names (configurations : List Configuration) (found : Found) : Prop :=
  forall intfNum, found.intf = some intfNum ->
    exists cfg intf, cfg ∈ configurations ∧ intf ∈ cfg.interfaceAltSettings ∧
      intf.isUsbmux = true ∧ intf.interfaceNumber = intfNum ∧
        found.cfgNum = some cfg.configurationValue

theorem mem_of_usbmuxSettings {cfg : Configuration}
    {intf : InterfaceDescriptor} (h : intf ∈ cfg.usbmuxSettings) :
    intf ∈ cfg.interfaceAltSettings ∧ intf.isUsbmux = true := by
  rcases List.mem_filterMap.mp h with ⟨descriptors, hmem, hfind⟩
  exact ⟨List.mem_flatten_of_mem hmem (List.mem_of_find?_eq_some hfind),
    List.find?_some hfind⟩

theorem names_configurations (configurations : List Configuration) :
    (configurations.foldl Found.configuration {}).Names configurations := by
  induction configurations using List.reverseRecOn with
  | nil =>
      intro intfNum h
      cases h
  | append_singleton front cfg ih =>
      rw [List.foldl_append, List.foldl_cons, List.foldl_nil, configuration_eq]
      rcases List.eq_nil_or_concat cfg.usbmuxSettings with
        hnone | ⟨settings, intf, hlast⟩
      · intro intfNum h
        rw [hnone] at h ⊢
        rcases ih intfNum h with ⟨other, alt, hother, hrest⟩
        exact ⟨other, alt, List.mem_append_left _ hother, hrest⟩
      · have hmem : intf ∈ cfg.usbmuxSettings := by
          rw [hlast, List.concat_eq_append]
          exact List.mem_append_right _ (List.mem_singleton_self intf)
        rcases mem_of_usbmuxSettings hmem with ⟨hintf, husbmux⟩
        rw [hlast, List.concat_eq_append, List.foldl_concat]
        intro intfNum h
        unfold Found.setting at h ⊢
        rw [endpoints_eq] at h ⊢
        exact ⟨cfg, intf, List.mem_append_right _ (List.mem_singleton_self cfg),
          hintf, husbmux, Option.some.inj h, rfl⟩

theorem deviceEndpoints_cases (linux : Bool) (host : UsbHost)
    (configurations :
      Except RusbmuxError (List (Except RusbmuxError Configuration))) :
    (deviceEndpoints linux host configurations).written = [] ∨
      exists (read : List Configuration) (found : Found)
          (intfNum endIn endOut : UInt8),
        configurations = .ok (read.map .ok) ∧
          found = read.foldl Found.configuration {} ∧
          found.intf = some intfNum ∧
          deviceEndpoints linux host configurations = (do
            switchTo .rusbError host (found.cfgNum.getD 1)
              (if linux then [intfNum] else [])
            host.claim .rusbError intfNum
            pure (endIn, endOut, found.outMaxPacketSize.getD 512)) := by
  cases configurations with
  | error err => exact Or.inl rfl
  | ok descriptors =>
      unfold deviceEndpoints
      rw [Transcript.lift_ok_bind]
      cases hsearch : search {} descriptors with
      | error err => exact Or.inl rfl
      | ok found =>
          rcases search_eq_ok hsearch with ⟨read, rfl, hfound⟩
          rw [Transcript.lift_ok_bind]
          cases hintf : found.intf with
          | none => exact Or.inl rfl
          | some intfNum =>
              cases hin : found.inAddr with
              | none => exact Or.inl rfl
              | some endIn =>
                  cases hout : found.outAddr with
                  | none => exact Or.inl rfl
                  | some endOut =>
                      exact Or.inr ⟨read, found, intfNum, endIn, endOut, rfl,
                        hfound, hintf, rfl⟩

theorem claimsUsbmux (linux : Bool) (host : UsbHost)
    (configurations :
      Except RusbmuxError (List (Except RusbmuxError Configuration))) :
    exists read : List Configuration,
      ((deviceEndpoints linux host configurations).written ≠ [] ->
        configurations = .ok (read.map .ok)) ∧
        ClaimsUsbmux host read
          (deviceEndpoints linux host configurations).written := by
  rcases deviceEndpoints_cases linux host configurations with
    hnone | ⟨read, found, intfNum, endIn, endOut, hread, hfound, hintf, hrest⟩
  · rw [hnone]
    exact ⟨[], fun h => absurd rfl h, fun _ h => absurd h List.not_mem_nil⟩
  · refine ⟨read, fun _ => hread, ?_⟩
    intro other hclaim
    have hnames := names_configurations read
    rw [← hfound] at hnames
    rcases hnames intfNum hintf with
      ⟨cfg, intf, hcfg, hmem, husbmux, hnumber, hcfgNum⟩
    rw [hrest, hcfgNum] at hclaim ⊢
    rcases claim_after_switchTo
      (fun _ => Transcript.WritesOnly.pure _) hclaim with ⟨rfl, hactive⟩
    exact ⟨cfg, intf, hcfg, hmem, husbmux, hnumber, hactive⟩

end Rusb

/--
Whatever the descriptors say and the system answers, each backend claims nothing
but a usbmux interface, and only in the configuration that is then active.
-/
theorem backends_claimUsbmux (linux : Bool) (host : UsbHost)
    (configurations : List Configuration)
    (descriptors :
      Except RusbmuxError (List (Except RusbmuxError Configuration))) :
    ClaimsUsbmux host configurations
        (Nusb.deviceEndpoints host configurations).written ∧
      exists read : List Configuration,
        ((Rusb.deviceEndpoints linux host descriptors).written ≠ [] ->
          descriptors = .ok (read.map .ok)) ∧
          ClaimsUsbmux host read
            (Rusb.deviceEndpoints linux host descriptors).written :=
  ⟨Nusb.claimsUsbmux host configurations,
    Rusb.claimsUsbmux linux host descriptors⟩

end UsbBackend
end Rusbmux
