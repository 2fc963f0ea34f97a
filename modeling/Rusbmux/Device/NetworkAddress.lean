import Rusbmux.Device.Device
import Rusbmux.Parser.DeviceMuxRoundTrip

/-!
# The address of a network device

`NetworkDevice::create_device_attached` of `device/network.rs` shows the address
of a device as the bytes of the socket address that the platform has for it, and
`NetworkDevice::connect` opens a socket to the same address.
-/

namespace Rusbmux
namespace Device

open Foundation
open Plist
open Rusbmux.Parser

structure Ipv4Addr where
  octets : List UInt8
  length : octets.length = 4
deriving DecidableEq

structure Ipv6Addr where
  octets : List UInt8
  length : octets.length = 16
deriving DecidableEq

inductive IpAddr where
  | v4 (addr : Ipv4Addr)
  | v6 (addr : Ipv6Addr)
deriving DecidableEq

inductive SocketAddr where
  | v4 (ip : Ipv4Addr) (port : UInt16)
  | v6 (ip : Ipv6Addr) (port : UInt16) (flowinfo scopeId : UInt32)
deriving DecidableEq

inductive Os where
  | linux
  | macos
  | windows
deriving DecidableEq, Repr

inductive Endian where
  | little
  | big
deriving DecidableEq, Repr

/-- What the program is built for. -/
structure Target where
  os : Os
  endian : Endian
deriving DecidableEq, Repr

namespace Target

def afInet : UInt8 :=
  2

def afInet6 (t : Target) : UInt8 :=
  match t.os with
  | .linux => 10
  | .macos => 30
  | .windows => 23

def nativeBytes (t : Target) (width n : Nat) : List UInt8 :=
  match t.endian with
  | .little => leBytes width n
  | .big => beBytes width n

def nativeNat (t : Target) (bytes : List UInt8) : Nat :=
  match t.endian with
  | .little => leNat bytes
  | .big => beNat bytes

/-- The first two bytes of a socket address; one platform has its size there. -/
def sockaddrFamily (t : Target) (size : Nat) (family : UInt8) : List UInt8 :=
  match t.os with
  | .macos => [.ofNat size, family]
  | .linux | .windows => t.nativeBytes 2 family.toNat

/-- `sockaddr_in`; its address is kept in network order. -/
def sockaddrIn (t : Target) (addr : Ipv4Addr) : List UInt8 :=
  t.sockaddrFamily 16 afInet ++ [0, 0] ++ addr.octets ++ List.replicate 8 0

def sockaddrIn6 (t : Target) (addr : Ipv6Addr) (scopeId : UInt32) :
    List UInt8 :=
  t.sockaddrFamily 28 t.afInet6 ++ [0, 0] ++ [0, 0, 0, 0] ++ addr.octets ++
    t.nativeBytes 4 scopeId.toNat

def sockaddr (t : Target) (addr : IpAddr) (scopeId : Option UInt32) :
    List UInt8 :=
  match addr with
  | .v4 addr => t.sockaddrIn addr
  | .v6 addr => t.sockaddrIn6 addr (scopeId.getD 0)

def networkAddress (t : Target) (addr : IpAddr) (scopeId : Option UInt32) :
    List UInt8 :=
  t.sockaddr addr scopeId ++
    List.replicate (128 - (t.sockaddr addr scopeId).length) 0

end Target

/-- The socket that `connect` opens. -/
def socketAddr (addr : IpAddr) (scopeId : Option UInt32)
    (destinationPort : UInt16) : SocketAddr :=
  match addr with
  | .v4 ip => .v4 ip destinationPort
  | .v6 ip => .v6 ip destinationPort 0 (scopeId.getD 0)

/-!
## Reading the address back
-/

def SocketAddr.withPort (port : UInt16) : SocketAddr -> SocketAddr
  | v4 ip _ => v4 ip port
  | v6 ip _ flowinfo scopeId => v6 ip port flowinfo scopeId

namespace Target

variable (t : Target)

def readFamily (bytes : List UInt8) : Nat :=
  match t.os with
  | .macos => beNat (field bytes 1 1)
  | .linux | .windows => t.nativeNat (field bytes 0 2)

def readSockaddr (bytes : List UInt8) : Option SocketAddr :=
  let port := UInt16.ofNat (beNat (field bytes 2 2))
  if t.readFamily bytes = afInet.toNat then
    if h : (field bytes 4 4).length = 4 then
      some (.v4 ⟨field bytes 4 4, h⟩ port)
    else
      none
  else if t.readFamily bytes = t.afInet6.toNat then
    if h : (field bytes 8 16).length = 16 then
      some (.v6 ⟨field bytes 8 16, h⟩ port
        (.ofNat (t.nativeNat (field bytes 4 4)))
        (.ofNat (t.nativeNat (field bytes 24 4))))
    else
      none
  else
    none

theorem nativeBytes_length (width n : Nat) :
    (t.nativeBytes width n).length = width := by
  unfold nativeBytes
  cases t.endian with
  | little => exact leBytes_length width n
  | big => exact beBytes_length width n

theorem nativeNat_nativeBytes {width n : Nat} (h : n < 256 ^ width) :
    t.nativeNat (t.nativeBytes width n) = n := by
  unfold nativeNat nativeBytes
  cases t.endian with
  | little => exact leNat_leBytes h
  | big => exact beNat_beBytes h

theorem sockaddrFamily_length (size : Nat) (family : UInt8) :
    (t.sockaddrFamily size family).length = 2 := by
  unfold sockaddrFamily
  cases t.os with
  | linux => exact t.nativeBytes_length 2 family.toNat
  | macos => rfl
  | windows => exact t.nativeBytes_length 2 family.toNat

theorem field_last {front : List UInt8} {offset : Nat} (width : Nat)
    (middle rest : List UInt8) (hfront : front.length = offset)
    (hmiddle : middle.length = width) :
    field (front ++ middle ++ rest) offset width = middle := by
  subst hfront hmiddle
  unfold field
  rw [List.append_assoc, List.drop_left, List.take_left]

theorem readFamily_sockaddrFamily (size : Nat) (family : UInt8)
    (rest : List UInt8) :
    t.readFamily (t.sockaddrFamily size family ++ rest) = family.toNat := by
  have hfits : family.toNat < 256 ^ 2 :=
    Nat.lt_of_lt_of_le family.toNat_lt (by decide)
  have hnative : t.nativeNat
      (field (t.nativeBytes 2 family.toNat ++ rest) 0 2) = family.toNat := by
    have hfield : field (t.nativeBytes 2 family.toNat ++ rest) 0 2 =
        t.nativeBytes 2 family.toNat :=
      @field_last [] 0 2 _ rest rfl (t.nativeBytes_length 2 family.toNat)
    rw [hfield, t.nativeNat_nativeBytes hfits]
  unfold readFamily sockaddrFamily
  cases t.os with
  | linux => exact hnative
  | macos => exact beNat_singleton family
  | windows => exact hnative

theorem readPort {front : List UInt8} (hfront : front.length = 2)
    (rest : List UInt8) :
    UInt16.ofNat (beNat (field (front ++ [0, 0] ++ rest) 2 2)) = 0 := by
  rw [field_last 2 [0, 0] rest hfront rfl]
  rfl

theorem readSockaddr_sockaddrIn (addr : Ipv4Addr) (rest : List UInt8) :
    t.readSockaddr (t.sockaddrIn addr ++ rest) = some (.v4 addr 0) := by
  have hfamily := t.sockaddrFamily_length 16 afInet
  have hfront : (t.sockaddrFamily 16 afInet ++ [0, 0]).length = 4 := by
    rw [List.length_append, hfamily]
    rfl
  have haddr := field_last 4 addr.octets (List.replicate 8 0 ++ rest) hfront
    addr.length
  have hport := readPort hfamily (addr.octets ++ List.replicate 8 0 ++ rest)
  have hread := t.readFamily_sockaddrFamily 16 afInet
    ([0, 0] ++ addr.octets ++ List.replicate 8 0 ++ rest)
  simp only [← List.append_assoc] at haddr hport hread
  unfold readSockaddr sockaddrIn
  simp only [hread, hport, haddr, if_true, addr.length, dif_pos]

theorem afInet6_ne (t : Target) : t.afInet6.toNat ≠ afInet.toNat := by
  unfold afInet6
  cases t.os with
  | linux => decide
  | macos => decide
  | windows => decide

theorem readSockaddr_sockaddrIn6 (addr : Ipv6Addr) (scopeId : UInt32)
    (rest : List UInt8) :
    t.readSockaddr (t.sockaddrIn6 addr scopeId ++ rest) =
      some (.v6 addr 0 0 scopeId) := by
  have hfamily := t.sockaddrFamily_length 28 t.afInet6
  have hport := readPort hfamily ([0, 0, 0, 0] ++ addr.octets ++
    t.nativeBytes 4 scopeId.toNat ++ rest)
  have hread := t.readFamily_sockaddrFamily 28 t.afInet6
    ([0, 0] ++ [0, 0, 0, 0] ++ addr.octets ++
      t.nativeBytes 4 scopeId.toNat ++ rest)
  have hfront : (t.sockaddrFamily 28 t.afInet6 ++ [0, 0]).length = 4 := by
    rw [List.length_append, hfamily]
    rfl
  have hflowinfo := field_last 4 [0, 0, 0, 0]
    (addr.octets ++ t.nativeBytes 4 scopeId.toNat ++ rest) hfront rfl
  have hmiddle : (t.sockaddrFamily 28 t.afInet6 ++ [0, 0] ++
      [0, 0, 0, 0]).length = 8 := by
    rw [List.length_append, hfront]
    rfl
  have haddr := field_last 16 addr.octets
    (t.nativeBytes 4 scopeId.toNat ++ rest) hmiddle addr.length
  have hback : (t.sockaddrFamily 28 t.afInet6 ++ [0, 0] ++ [0, 0, 0, 0] ++
      addr.octets).length = 24 := by
    rw [List.length_append, hmiddle, addr.length]
  have hscope := field_last 4 (t.nativeBytes 4 scopeId.toNat) rest hback
    (t.nativeBytes_length 4 scopeId.toNat)
  have hzero : UInt32.ofNat (t.nativeNat [0, 0, 0, 0]) = 0 := by
    unfold nativeNat
    cases t.endian with
    | little => rfl
    | big => rfl
  have hscopeId : UInt32.ofNat
      (t.nativeNat (t.nativeBytes 4 scopeId.toNat)) = scopeId := by
    rw [t.nativeNat_nativeBytes (by simpa using scopeId.toNat_lt)]
    exact UInt32.ofNat_toNat
  simp only [← List.append_assoc] at haddr hport hread hflowinfo hscope
  unfold readSockaddr sockaddrIn6
  simp only [hread, hport, haddr, hflowinfo, hscope, hzero, hscopeId,
    if_neg t.afInet6_ne, if_true, addr.length, dif_pos]

theorem sockaddr_length_le (addr : IpAddr) (scopeId : Option UInt32) :
    (t.sockaddr addr scopeId).length <= 128 := by
  cases addr with
  | v4 addr =>
      show (t.sockaddrIn addr).length <= 128
      unfold sockaddrIn
      simp only [List.length_append, sockaddrFamily_length, addr.length,
        List.length_replicate]
      decide
  | v6 addr =>
      show (t.sockaddrIn6 addr _).length <= 128
      unfold sockaddrIn6
      simp only [List.length_append, sockaddrFamily_length, addr.length,
        nativeBytes_length]
      decide

theorem networkAddress_length (addr : IpAddr) (scopeId : Option UInt32) :
    (t.networkAddress addr scopeId).length = 128 := by
  unfold networkAddress
  rw [List.length_append, List.length_replicate]
  exact Nat.add_sub_cancel' (t.sockaddr_length_le addr scopeId)

theorem readSockaddr_networkAddress (addr : IpAddr)
    (scopeId : Option UInt32) :
    t.readSockaddr (t.networkAddress addr scopeId) =
      some (socketAddr addr scopeId 0) := by
  cases addr with
  | v4 addr => exact t.readSockaddr_sockaddrIn addr _
  | v6 addr => exact t.readSockaddr_sockaddrIn6 addr _ _

end Target

/-!
## The device that clients are shown
-/

def entry (key : String) : Value -> Option Value
  | .dictionary entries => entries.lookup key
  | _ => none

def shownSocket (t : Target) (attached : Value) : Option SocketAddr :=
  match (entry "Properties" attached).bind (entry "NetworkAddress") with
  | some (.data bytes) => t.readSockaddr bytes
  | _ => none

/--
Clients are shown the address that a connection to the device is made to, in a
field of 128 bytes, whatever the platform.
-/
theorem shownSocket_attached (t : Target) (dev : NetworkDevice) (addr : IpAddr)
    (scopeId : Option UInt32) (port : UInt16) :
    (t.networkAddress addr scopeId).length = 128 ∧
      (shownSocket t (createDeviceAttached (.network { dev with
          scopeId := scopeId
          networkAddress := t.networkAddress addr scopeId }))).map
            (SocketAddr.withPort port) =
        some (socketAddr addr scopeId port) := by
  refine ⟨t.networkAddress_length addr scopeId, ?_⟩
  have hshown : shownSocket t (createDeviceAttached (.network { dev with
      scopeId := scopeId
      networkAddress := t.networkAddress addr scopeId })) =
        t.readSockaddr (t.networkAddress addr scopeId) := rfl
  rw [hshown, t.readSockaddr_networkAddress]
  cases addr with
  | v4 addr => rfl
  | v6 addr => rfl

end Device
end Rusbmux
