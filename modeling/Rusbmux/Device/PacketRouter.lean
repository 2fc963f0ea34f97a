import Rusbmux.Foundation.Machine
import Rusbmux.Parser.DeviceMux

/-!
# The packet router

`PacketRouter` of `device/packet_router.rs`, and the part of the reader loop
that feeds it.  Every operation on the routes is one step.  While `route` waits
for room in a channel it holds the entry, so no other operation on the routes
comes in between; a step that reads a packet for a full channel is not enabled
before its receiver has taken something.  What `route` does after a failed send
is a step of its own, since it has let go of the entry by then.
-/

namespace Rusbmux
namespace Device

open Foundation
open Rusbmux.Parser

structure PacketEntry where
  port : UInt16
  tx : Nat
  conn : Option Nat := none
deriving DecidableEq, Repr

structure PacketRouter where
  routes : List PacketEntry := []
  nextSourcePort : UInt16 := 1
deriving DecidableEq, Repr

structure PacketChannel where
  /-- The source port that `register` returned with the receiver. -/
  port : UInt16
  sent : List UsbDevicePacket := []
  taken : Nat := 0
  receiverAlive : Bool := true
  /--
  The packets for the port that were read while the registration was in the
  routes and its receiver alive.
  -/
  due : List UsbDevicePacket := []
deriving DecidableEq, Repr

namespace PacketChannel

def capacity : Nat := 256

def hasRoom (c : PacketChannel) : Bool :=
  c.sent.length - c.taken < capacity

def push (c : PacketChannel) (packet : UsbDevicePacket) : PacketChannel :=
  { c with sent := c.sent ++ [packet] }

def owe (c : PacketChannel) (packet : UsbDevicePacket) : PacketChannel :=
  { c with due := c.due ++ [packet] }

def dropReceiver (c : PacketChannel) : PacketChannel :=
  { c with receiverAlive := false }

def take (c : PacketChannel) : PacketChannel :=
  { c with taken := min (c.taken + 1) c.sent.length }

end PacketChannel

namespace PacketRouter

def maxSourcePortProbes : Nat := 64

def get (r : PacketRouter) (port : UInt16) : Option PacketEntry :=
  r.routes.find? fun entry => entry.port = port

def unregister (r : PacketRouter) (port : UInt16) : PacketRouter :=
  { r with routes := r.routes.filter fun entry => entry.port ≠ port }

def clear (r : PacketRouter) : PacketRouter :=
  { r with routes := [] }

def attachConn (r : PacketRouter) (sourcePort : UInt16) (conn : Nat) :
    PacketRouter :=
  { r with
    routes := r.routes.map fun entry =>
      if entry.port = sourcePort then { entry with conn := some conn }
      else entry }

def cleanupDead (r : PacketRouter) (alive : Nat -> Bool) : PacketRouter :=
  { r with routes := r.routes.filter fun entry => alive entry.tx }

/-- The probes of `register`, which open the channel with the given number. -/
def probe (tx : Nat) : Nat -> PacketRouter -> PacketRouter × Option UInt16
  | 0, r => (r, none)
  | probes + 1, r =>
      let sp := r.nextSourcePort
      let r := { r with nextSourcePort := sp + 1 }
      let sp := if sp = 0 then 1 else sp
      match r.get sp with
      | none => ({ r with routes := { port := sp, tx := tx } :: r.routes }, some sp)
      | some _ => probe tx probes r

end PacketRouter

structure Demux where
  router : PacketRouter := {}
  channels : List PacketChannel := []
  /-- `route` has found the receiver of the port gone. -/
  unregistering : Option UInt16 := none
  stopped : Bool := false

namespace Demux

inductive Action where
  | register
  | unregister (port : UInt16)
  | attachConn (sourcePort : UInt16) (conn : Nat)
  | clear
  | dropReceiver (tx : Nat)
  | take (tx : Nat)
  | readPacket (packet : UsbDevicePacket)
  | finishRoute
  | readFailed

def alive (s : Demux) (tx : Nat) : Bool :=
  s.channels[tx]?.any fun c => c.receiverAlive

def hasRoom (s : Demux) (tx : Nat) : Bool :=
  s.channels[tx]?.any fun c => c.hasRoom

def registered (s : Demux) (tx : Nat) (c : PacketChannel) : Bool :=
  s.router.routes.any fun entry => entry.port = c.port && entry.tx = tx

def register (s : Demux) : Demux :=
  match PacketRouter.probe s.channels.length PacketRouter.maxSourcePortProbes
    (s.router.cleanupDead s.alive) with
  | (router, some port) =>
      { s with router := router, channels := s.channels ++ [{ port := port }] }
  | (router, none) => { s with router := router }

/-- `route`, up to the point where it lets go of the entry. -/
def route (s : Demux) (packet : UsbDevicePacket) : Option Demux :=
  let port := packet.tcpHdr.elim 0 fun h => h.destinationPort
  match s.router.get port with
  | none => some s
  | some entry =>
      if !s.alive entry.tx then some { s with unregistering := some port }
      else if s.hasRoom entry.tx then
        some { s with
          channels := s.channels.modify entry.tx fun c => c.push packet }
      else none

def isFor (packet : UsbDevicePacket) (port : UInt16) : Bool :=
  packet.tcpHdr.any fun t => !t.rst && t.destinationPort = port

def owe (s : Demux) (packet : UsbDevicePacket) : Demux :=
  { s with
    channels := s.channels.mapIdx fun tx c =>
      if isFor packet c.port && c.receiverAlive && s.registered tx c then
        c.owe packet
      else c }

def dispatch (s : Demux) (packet : UsbDevicePacket) : Option Demux :=
  match packet.tcpHdr with
  | some t =>
      if t.rst then
        some { s with router := s.router.unregister t.destinationPort }
      else s.route packet
  | none => s.route packet

def readPacket (s : Demux) (packet : UsbDevicePacket) : Option Demux :=
  if s.stopped || s.unregistering.isSome then none
  else (s.owe packet).dispatch packet

def finishRoute (s : Demux) : Option Demux :=
  s.unregistering.map fun port =>
    { s with router := s.router.unregister port, unregistering := none }

def readFailed (s : Demux) : Option Demux :=
  if s.stopped || s.unregistering.isSome then none
  else some { s with router := s.router.clear, stopped := true }

def step : Machine Demux Action := fun s a =>
  match a with
  | .register => some s.register
  | .unregister port => some { s with router := s.router.unregister port }
  | .attachConn sourcePort conn =>
      some { s with router := s.router.attachConn sourcePort conn }
  | .clear => some { s with router := s.router.clear }
  | .dropReceiver tx =>
      some { s with channels := s.channels.modify tx fun c => c.dropReceiver }
  | .take tx => some { s with channels := s.channels.modify tx fun c => c.take }
  | .readPacket packet => s.readPacket packet
  | .finishRoute => s.finishRoute
  | .readFailed => s.readFailed

end Demux

end Device
end Rusbmux
