import Rusbmux.Device.Opening
import Rusbmux.Handler.ClientToDevice
import Rusbmux.Handler.DeviceToClient

/-!
# The way from many clients to a device

The relays of all clients of a device put their packets on one channel, from
which the writer loop writes them to the endpoint.  The parts were described one
by one; here they run together, in any interleaving, and what the device makes
of the bytes is compared with what the clients have sent.
-/

namespace Rusbmux
namespace Handler

open Foundation
open Rusbmux.Device
open Rusbmux.Parser

/-!
## The packets of a connection
-/

structure Carried (packet : UsbDevicePacket) : Prop where
  plain : WriterLoop.Plain packet
  framed : exists protocol, UsbDevicePacket.WellFramed protocol packet

theorem carried_build (F : Plist.Format) (build : UsbDevicePacket.Build)
    (hfits : (build.packet F).framedSize < 2 ^ 32) :
    Carried (build.packet F) where
  plain := WriterLoop.plain_packet F build
  framed := build.wellFramed F hfits

def sourcePort? (packet : UsbDevicePacket) : Option UInt16 :=
  packet.tcpHdr.map TcpHeader.sourcePort

def dataFrom (port : UInt16) (packets : List UsbDevicePacket) : List UInt8 :=
  payloads (packets.filter fun packet => sourcePort? packet = some port)

theorem payloads_append (xs ys : List UsbDevicePacket) :
    payloads (xs ++ ys) = payloads xs ++ payloads ys :=
  List.flatMap_append

theorem dataFrom_append (port : UInt16) (xs ys : List UsbDevicePacket) :
    dataFrom port (xs ++ ys) = dataFrom port xs ++ dataFrom port ys := by
  unfold dataFrom
  rw [List.filter_append, payloads_append]

structure FromPort (port : UInt16) (packet : UsbDevicePacket) : Prop where
  carried : Carried packet
  sourcePort : sourcePort? packet = some port

theorem dataFrom_self {port : UInt16} {packets : List UsbDevicePacket}
    (h : forall p, p ∈ packets -> FromPort port p) :
    dataFrom port packets = payloads packets := by
  unfold dataFrom
  rw [List.filter_eq_self.mpr]
  intro packet hmem
  exact decide_eq_true (h packet hmem).sourcePort

theorem dataFrom_other {port other : UInt16} (hne : other ≠ port)
    {packets : List UsbDevicePacket}
    (h : forall p, p ∈ packets -> FromPort port p) :
    dataFrom other packets = [] := by
  unfold dataFrom
  rw [List.filter_eq_nil_iff.mpr]
  · rfl
  · intro packet hmem hport
    have hsame := (h packet hmem).sourcePort.symm.trans (of_decide_eq_true hport)
    exact hne (Option.some.inj hsame).symm

theorem dataFrom_singleton_of_empty {port : UInt16} {packet : UsbDevicePacket}
    (h : sourcePort? packet = some port -> packet.payload.encode = []) :
    dataFrom port [packet] = [] := by
  unfold dataFrom
  by_cases hport : sourcePort? packet = some port
  · rw [List.filter_singleton, decide_eq_true hport]
    show packet.payload.encode ++ [] = []
    rw [h hport]
    rfl
  · rw [List.filter_singleton, decide_eq_false hport]
    rfl

structure ConnOf (port : UInt16) (conn : UsbDeviceConn) : Prop where
  sourcePort : conn.sourcePort = port
  fits : conn.sendableBytes <= maxPacketPayloadSize

namespace ConnOf

variable {port : UInt16} {conn : UsbDeviceConn}

theorem setDropped (h : ConnOf port conn) : ConnOf port conn.setDropped :=
  ⟨h.sourcePort, h.fits⟩

theorem updateSendableBytes (h : ConnOf port conn) :
    ConnOf port conn.updateSendableBytes :=
  ⟨h.sourcePort, UsbDeviceConn.calcSendableBytes_le _ _ _⟩

theorem packetSent (h : ConnOf port conn) (packet : UsbDevicePacket) :
    ConnOf port (conn.packetSent packet) :=
  ⟨h.sourcePort, UsbDeviceConn.calcSendableBytes_le _ _ _⟩

theorem updateStates (h : ConnOf port conn) (packet : UsbDevicePacket) :
    ConnOf port (conn.updateStates packet) := by
  unfold UsbDeviceConn.updateStates
  cases packet.tcpHdr with
  | none => exact h
  | some tcpHdr => exact ⟨h.sourcePort, h.fits⟩

theorem newFrom (destinationPort : UInt16) (sent received : UInt32)
    (window : UInt16) (acknowledged : UInt32) :
    ConnOf port (.newFrom destinationPort port sent received window
      acknowledged) :=
  ⟨rfl, UsbDeviceConn.calcSendableBytes_le _ _ _⟩

theorem buildFlag (h : ConnOf port conn) (tcpFlag : TcpFlags) :
    FromPort port (conn.buildFlag tcpFlag) ∧
      (conn.buildFlag tcpFlag).payload.encode = [] := by
  refine ⟨⟨?_, congrArg some h.sourcePort⟩, rfl⟩
  exact carried_build UsbDevicePacket.withoutPlists
    (.flag ⟨UsbDeviceConn.autoSeq, UsbDeviceConn.autoSeq, conn.sourcePort,
      conn.destinationPort, conn.sentBytes, conn.receivedBytes, tcpFlag⟩)
    (show 16 + 20 + 0 < 2 ^ 32 by decide)

theorem buildBytes (h : ConnOf port conn) {value : List UInt8}
    (hlength : value.length <= maxPacketPayloadSize) :
    FromPort port (conn.buildBytes value) := by
  refine ⟨?_, congrArg some h.sourcePort⟩
  have hsize : maxPacketPayloadSize = 49116 := by decide
  apply carried_build UsbDevicePacket.withoutPlists
    (.bytes ⟨UsbDeviceConn.autoSeq, UsbDeviceConn.autoSeq, conn.sourcePort,
      conn.destinationPort, conn.sentBytes, conn.receivedBytes, .ack⟩ value)
  show 16 + 20 + value.length < 2 ^ 32
  omega

end ConnOf

/-!
## What a relay passes on
-/

/-- The bytes of a payload that is not on the channel yet. -/
def Phase.unsent : Phase -> List UInt8
  | .uploading packet => packet.payload.encode
  | .selecting _ _ | .forwarding _ | .closing _ | .returned _ => []

def Phase.OfPort (port : UInt16) : Phase -> Prop
  | .selecting .waiting sendable => sendable <= maxPacketPayloadSize
  | .selecting (.acking _ tcpAck) sendable =>
      sendable <= maxPacketPayloadSize ∧
        FromPort port tcpAck ∧ tcpAck.payload.encode = []
  | .uploading packet => FromPort port packet
  | .closing rstPacket => FromPort port rstPacket ∧ rstPacket.payload.encode = []
  | .forwarding _ | .returned _ => True

theorem Phase.OfPort.sendable_le {port : UInt16} {recv : RecvFuture}
    {sendable : Nat} (h : (Phase.selecting recv sendable).OfPort port) :
    sendable <= maxPacketPayloadSize := by
  cases recv with
  | waiting => exact h
  | acking response tcpAck => exact h.left

namespace Relay

structure OfPort (port : UInt16) (s : Relay) : Prop where
  conn : ConnOf port s.conn
  phase : s.phase.OfPort port

/--
A step that puts packets of its own port on the channel.  As long as no send
fails, what it holds and reads is what it puts there and still holds.
-/
structure PassesOn (port : UInt16) (s t : Relay)
    (packets : List UsbDevicePacket) : Prop where
  ofPort : OfPort port t
  sent : t.sent = s.sent ++ packets
  fromPort : forall p, p ∈ packets -> FromPort port p
  balance : exists chunk, t.clientRead = s.clientRead ++ chunk ∧
    (t.failed = false -> s.failed = false ∧
      payloads packets ++ (t.phase.unsent ++ t.readBuf) =
        s.phase.unsent ++ (s.readBuf ++ chunk))

theorem PassesOn.of_same {port : UInt16} {s t : Relay} (hof : OfPort port t)
    (hsent : t.sent = s.sent) (hread : t.clientRead = s.clientRead)
    (hbuf : t.readBuf = s.readBuf) (hfailed : t.failed = s.failed)
    (hunsent : t.phase.unsent = s.phase.unsent) : PassesOn port s t [] where
  ofPort := hof
  sent := by rw [hsent, List.append_nil]
  fromPort := List.forall_mem_nil _
  balance := by
    refine ⟨[], ?_, ?_⟩
    · rw [hread, List.append_nil]
    · intro h
      rw [hunsent, hbuf, List.append_nil]
      exact ⟨hfailed.symm.trans h, rfl⟩

theorem PassesOn.of_failed {port : UInt16} {s t : Relay} (hof : OfPort port t)
    (hsent : t.sent = s.sent) (hread : t.clientRead = s.clientRead)
    (hfailed : t.failed = true) : PassesOn port s t [] where
  ofPort := hof
  sent := by rw [hsent, List.append_nil]
  fromPort := List.forall_mem_nil _
  balance := by
    refine ⟨[], ?_, ?_⟩
    · rw [hread, List.append_nil]
    · intro h
      cases hfailed.symm.trans h

theorem PassesOn.of_sent {port : UInt16} {s t : Relay}
    {packet : UsbDevicePacket} (hof : OfPort port t)
    (hpacket : FromPort port packet) (hsent : t.sent = s.sent ++ [packet])
    (hread : t.clientRead = s.clientRead) (hbuf : t.readBuf = s.readBuf)
    (hfailed : t.failed = s.failed) (ht : t.phase.unsent = [])
    (hs : s.phase.unsent = packet.payload.encode) :
    PassesOn port s t [packet] where
  ofPort := hof
  sent := hsent
  fromPort := List.forall_mem_singleton.mpr hpacket
  balance := by
    refine ⟨[], ?_, ?_⟩
    · rw [hread, List.append_nil]
    · intro h
      rw [ht, hs, hbuf, List.append_nil]
      exact ⟨hfailed.symm.trans h, by
        rw [payloads, List.flatMap_singleton, List.nil_append]⟩

variable {port : UInt16} {s t : Relay}

theorem ofPort_clientSend (h : ConnOf port s.conn) (payload : List UInt8) :
    OfPort port (s.clientSend payload) := by
  unfold clientSend
  split
  · exact ⟨h, h.fits⟩
  · exact ⟨h, trivial⟩

theorem clientSend_same (s : Relay) (payload : List UInt8) :
    (s.clientSend payload).sent = s.sent ∧
      (s.clientSend payload).clientRead = s.clientRead ∧
      (s.clientSend payload).readBuf = s.readBuf ∧
      (s.clientSend payload).failed = s.failed ∧
      (s.clientSend payload).phase.unsent = [] := by
  unfold clientSend
  split
  · exact ⟨rfl, rfl, rfl, rfl, rfl⟩
  · exact ⟨rfl, rfl, rfl, rfl, rfl⟩

theorem ack_passesOn {u : Relay} (hconn : ConnOf port u.conn)
    {response tcpAck : UsbDevicePacket} {sendable : Nat}
    (hsendable : sendable <= maxPacketPayloadSize)
    (hack : FromPort port tcpAck) (hempty : tcpAck.payload.encode = [])
    (hsent : u.sent = s.sent) (hread : u.clientRead = s.clientRead)
    (hbuf : u.readBuf = s.readBuf) (hfailed : u.failed = s.failed)
    (hunsent : s.phase.unsent = []) (answer : SendAnswer) :
    exists packets,
      PassesOn port s (u.ack response tcpAck sendable answer) packets := by
  cases answer with
  | sent =>
      rcases clientSend_same { u with
          sent := u.sent ++ [tcpAck]
          conn := u.conn.updateSendableBytes } response.payload.encode with
        ⟨hsent', hread', hbuf', hfailed', hunsent'⟩
      refine ⟨[tcpAck], PassesOn.of_sent
        (ofPort_clientSend hconn.updateSendableBytes _) hack ?_
        (hread'.trans hread) (hbuf'.trans hbuf) (hfailed'.trans hfailed)
        hunsent' (hunsent.trans hempty.symm)⟩
      rw [← hsent]
      exact hsent'
  | full =>
      exact ⟨[], PassesOn.of_same ⟨hconn, hsendable, hack, hempty⟩ hsent hread
        hbuf hfailed hunsent.symm⟩
  | disconnected =>
      exact ⟨[], PassesOn.of_failed ⟨hconn, trivial⟩ hsent hread rfl⟩

theorem clientPacket_passesOn {u : Relay} (hconn : ConnOf port u.conn)
    {sendable : Nat} (hpos : 0 < sendable)
    (hsendable : sendable <= maxPacketPayloadSize) (chunk : List UInt8)
    (hsent : u.sent = s.sent) (hread : u.clientRead = s.clientRead ++ chunk)
    (hbuf : u.readBuf = s.readBuf ++ chunk) (hfailed : u.failed = s.failed)
    (hunsent : s.phase.unsent = []) :
    PassesOn port s (u.clientPacket sendable) [] := by
  by_cases hempty : u.readBuf = []
  · rw [clientPacket_of_empty hempty]
    refine ⟨⟨hconn, hconn.buildFlag .rst⟩, ?_, List.forall_mem_nil _,
      ⟨chunk, hread, ?_⟩⟩
    · rw [List.append_nil]
      exact hsent
    · intro h
      refine ⟨hfailed.symm.trans h, ?_⟩
      rw [hunsent, ← hbuf]
      rfl
  · rcases clientPacket_of_nonempty hpos hempty with
      ⟨payload, rest, hsplit, _, hlength, hpacket⟩
    rw [hpacket]
    refine ⟨⟨hconn, hconn.buildBytes (Nat.le_trans hlength hsendable)⟩, ?_,
      List.forall_mem_nil _, ⟨chunk, hread, ?_⟩⟩
    · rw [List.append_nil]
      exact hsent
    · intro h
      refine ⟨hfailed.symm.trans h, ?_⟩
      rw [hunsent, ← hbuf, hsplit]
      rfl

theorem unsent_of_selecting {recv : RecvFuture} {sendable : Nat}
    (hphase : s.phase = .selecting recv sendable) : s.phase.unsent = [] := by
  rw [hphase]
  rfl

theorem sendable_le_of_selecting (h : OfPort port s) {recv : RecvFuture}
    {sendable : Nat} (hphase : s.phase = .selecting recv sendable) :
    sendable <= maxPacketPayloadSize := by
  have hof := h.phase
  rw [hphase] at hof
  exact hof.sendable_le

theorem readClient_passesOn (h : OfPort port s)
    {answer : Except IoError (List UInt8)}
    (hstep : s.readClient answer = some t) : PassesOn port s t [] := by
  rcases readClient_cases hstep with
    ⟨recv, sendable, hphase, hpos, hbuffered | hfailed | hread⟩
  · rcases hbuffered with ⟨_, rfl⟩
    exact clientPacket_passesOn h.conn hpos
      (sendable_le_of_selecting h hphase) [] rfl (List.append_nil _).symm
      (List.append_nil _).symm rfl (unsent_of_selecting hphase)
  · rcases hfailed with ⟨err, _, rfl⟩
    exact PassesOn.of_same ⟨h.conn, trivial⟩ rfl rfl rfl rfl
      (unsent_of_selecting hphase).symm
  · rcases hread with ⟨chunk, hempty, _, rfl⟩
    refine clientPacket_passesOn (u := { s with
        readBuf := chunk
        clientRead := s.clientRead ++ chunk }) h.conn hpos
      (sendable_le_of_selecting h hphase) chunk rfl rfl ?_ rfl
      (unsent_of_selecting hphase)
    rw [hempty]
    rfl

theorem writeClient_passesOn (h : OfPort port s) {answer : Except IoError Nat}
    (hstep : s.writeClient answer = some t) : PassesOn port s t [] := by
  rcases writeClient_cases hstep with
    ⟨rest, hphase, ⟨err, _, rfl⟩ | ⟨n, _, _, rfl⟩⟩
  · exact PassesOn.of_failed ⟨h.conn, trivial⟩ rfl rfl rfl
  · rcases clientSend_same { s with written := s.written ++ rest.take n }
      (rest.drop n) with ⟨hsent, hread, hbuf, hfailed, hunsent⟩
    have hof : OfPort port ({ s with
        written := s.written ++ rest.take n }.clientSend (rest.drop n)) :=
      ofPort_clientSend (s := { s with
        written := s.written ++ rest.take n }) h.conn _
    refine PassesOn.of_same hof hsent hread hbuf hfailed (hunsent.trans ?_)
    rw [hphase]
    rfl

theorem sendBytes_passesOn (h : OfPort port s) {answer : SendAnswer}
    (hstep : s.sendBytes answer = some t) :
    exists packets, PassesOn port s t packets := by
  rcases sendBytes_cases hstep with
    ⟨packet, hphase, ⟨_, rfl⟩ | ⟨_, rfl⟩ | ⟨_, rfl⟩⟩
  · have hpacket := h.phase
    rw [hphase] at hpacket
    have hconn := h.conn.packetSent packet
    refine ⟨[packet], PassesOn.of_sent ⟨hconn, hconn.fits⟩ hpacket rfl rfl rfl
      rfl rfl ?_⟩
    rw [hphase]
    rfl
  · exact ⟨[], PassesOn.of_same h rfl rfl rfl rfl rfl⟩
  · exact ⟨[], PassesOn.of_failed ⟨h.conn, trivial⟩ rfl rfl rfl⟩

theorem sendRst_passesOn (h : OfPort port s) {answer : SendAnswer}
    (hstep : s.sendRst answer = some t) :
    exists packets, PassesOn port s t packets := by
  rcases sendRst_cases hstep with
    ⟨rstPacket, hphase, ⟨_, rfl⟩ | ⟨_, rfl⟩ | ⟨_, rfl⟩⟩
  · have hpacket := h.phase
    rw [hphase] at hpacket
    refine ⟨[rstPacket], PassesOn.of_sent ⟨h.conn.setDropped, trivial⟩
      hpacket.left rfl rfl rfl rfl rfl ?_⟩
    rw [hphase]
    exact hpacket.right.symm
  · exact ⟨[], PassesOn.of_same h rfl rfl rfl rfl rfl⟩
  · exact ⟨[], PassesOn.of_failed ⟨h.conn, trivial⟩ rfl rfl rfl⟩

theorem step_passesOn (h : OfPort port s) {a : Action}
    (hstep : step s a = some t) :
    exists packets, PassesOn port s t packets := by
  cases a with
  | shutdown =>
      rcases shutdown_eq_some hstep with ⟨recv, sendable, hphase, rfl⟩
      exact ⟨[], PassesOn.of_same ⟨h.conn, trivial⟩ rfl rfl rfl rfl
        (unsent_of_selecting hphase).symm⟩
  | recvPacket packet answer =>
      rcases recvPacket_eq_some hstep with ⟨sendable, hphase, rfl⟩
      have hconn := h.conn.updateStates packet
      have hflag := hconn.buildFlag .ack
      exact ack_passesOn (s := s) (u := { s with
          received := s.received ++ [packet]
          conn := s.conn.updateStates packet }) hconn
        (sendable_le_of_selecting h hphase) hflag.left hflag.right rfl rfl rfl
        rfl (unsent_of_selecting hphase) answer
  | recvDisconnected =>
      rcases recvDisconnected_eq_some hstep with ⟨sendable, hphase, rfl⟩
      exact ⟨[], PassesOn.of_same ⟨h.conn, trivial⟩ rfl rfl rfl rfl
        (unsent_of_selecting hphase).symm⟩
  | recvAck answer =>
      rcases recvAck_eq_some hstep with
        ⟨response, tcpAck, sendable, hphase, rfl⟩
      have hof := h.phase
      rw [hphase] at hof
      exact ack_passesOn h.conn hof.left hof.right.left hof.right.right rfl rfl
        rfl rfl (unsent_of_selecting hphase) answer
  | clientRead answer => exact ⟨[], readClient_passesOn h hstep⟩
  | clientWrite answer => exact ⟨[], writeClient_passesOn h hstep⟩
  | sendBytes answer => exact sendBytes_passesOn h hstep
  | sendRst answer => exact sendRst_passesOn h hstep

theorem step_of_returned (hreturned : s.phase.isReturned = true)
    (a : Action) : step s a = none := by
  have hnot : forall {phase : Phase}, s.phase = phase ->
      phase.isReturned = false -> False := by
    intro phase hphase hactive
    rw [hphase, hactive] at hreturned
    cases hreturned
  cases hstep : step s a with
  | none => rfl
  | some t =>
      exfalso
      cases a with
      | shutdown =>
          rcases shutdown_eq_some hstep with ⟨_, _, hphase, _⟩
          exact hnot hphase rfl
      | recvPacket packet answer =>
          rcases recvPacket_eq_some hstep with ⟨_, hphase, _⟩
          exact hnot hphase rfl
      | recvDisconnected =>
          rcases recvDisconnected_eq_some hstep with ⟨_, hphase, _⟩
          exact hnot hphase rfl
      | recvAck answer =>
          rcases recvAck_eq_some hstep with ⟨_, _, _, hphase, _⟩
          exact hnot hphase rfl
      | clientRead answer =>
          rcases readClient_cases hstep with ⟨_, _, hphase, _⟩
          exact hnot hphase rfl
      | clientWrite answer =>
          rcases writeClient_cases hstep with ⟨_, hphase, _⟩
          exact hnot hphase rfl
      | sendBytes answer =>
          rcases sendBytes_cases hstep with ⟨_, hphase, _⟩
          exact hnot hphase rfl
      | sendRst answer =>
          rcases sendRst_cases hstep with ⟨_, hphase, _⟩
          exact hnot hphase rfl

end Relay

/-!
## The relays, the channel and the writer loop
-/

structure Client where
  port : UInt16
  relay : Relay
  /-- What was in packets of the port when the connection got it. -/
  before : List UInt8
  /-- No other connection has had the port, or sent data from it, since. -/
  own : Bool

/-- The client that the condition holds of has its port no longer for itself. -/
def Client.disown (shares : Client -> Bool) (c : Client) : Client :=
  { c with own := c.own && !shares c }

structure Tunnel where
  clients : List Client := []
  channel : List UsbDevicePacket := []
  writer : WriterLoop := {}

namespace Tunnel

inductive Action where
  /--
  A connection is ready, with the numbers of its handshake.  The router may have
  given it the port of one that still runs.
  -/
  | connect (destinationPort sourcePort : UInt16) (sent received : UInt32)
      (window : UInt16) (acknowledged : UInt32)
  | relay (index : Nat) (action : Relay.Action)
  | send (build : UsbDevicePacket.Build)
  | receive
  | write (header payload : WriteAll)

def packets (t : Tunnel) : List UsbDevicePacket :=
  t.writer.packets ++ t.channel

def connect (t : Tunnel) (sourcePort : UInt16) (conn : UsbDeviceConn) :
    Tunnel :=
  { t with
    clients :=
      t.clients.map (Client.disown fun c => c.port = sourcePort) ++
        [{ port := sourcePort
           relay := Relay.init conn
           before := dataFrom sourcePort t.packets
           own := t.clients.all fun c =>
             c.port ≠ sourcePort || c.relay.phase.isReturned }] }

def stepRelay (t : Tunnel) (index : Nat) (action : Relay.Action) :
    Option Tunnel :=
  t.clients[index]?.bind fun c =>
    (Relay.step c.relay action).map fun u =>
      { t with
        clients := t.clients.set index { c with relay := u }
        channel := t.channel ++ u.sent.drop c.relay.sent.length }

def HasDataOf (packet : UsbDevicePacket) (c : Client) : Bool :=
  sourcePort? packet = some c.port && packet.payload.encode ≠ []

def send (t : Tunnel) (packet : UsbDevicePacket) : Option Tunnel :=
  if packet.framedSize < 2 ^ 32 then
    some { t with
      clients := t.clients.map (Client.disown (HasDataOf packet))
      channel := t.channel ++ [packet] }
  else
    none

def write (checks : Bool) (C : TcpHeaderCodec) (t : Tunnel)
    (header payload : WriteAll) : Option Tunnel :=
  match t.channel with
  | [] => none
  | packet :: rest =>
      (t.writer.writePacket checks C packet header payload).map fun writer =>
        { t with channel := rest, writer := writer }

def step (checks : Bool) (C : TcpHeaderCodec) (F : Plist.Format) :
    Machine Tunnel Action := fun t a =>
  match a with
  | .connect destinationPort sourcePort sent received window acknowledged =>
      some (t.connect sourcePort (.newFrom destinationPort sourcePort sent
        received window acknowledged))
  | .relay index action => t.stepRelay index action
  | .send build => t.send (build.packet F)
  | .receive =>
      some { t with
        writer := { t.writer with recvSeq := t.writer.recvSeq + 1 } }
  | .write header payload => t.write checks C header payload

def Action.succeeds : Action -> Bool
  | .write header payload => header.isOk && payload.isOk
  | _ => true

/-!
## What is where
-/

variable {checks : Bool} {C : TcpHeaderCodec} {F : Plist.Format}

/--
What was read from a client is in the packets of its port, in the hands of its
relay or in its buffer, in this order.
-/
structure Holds (t : Tunnel) (c : Client) : Prop where
  ofPort : Relay.OfPort c.port c.relay
  balance : c.own = true -> c.relay.failed = false ->
    dataFrom c.port t.packets ++ (c.relay.phase.unsent ++ c.relay.readBuf) =
      c.before ++ c.relay.clientRead

def Alone (t : Tunnel) : Prop :=
  forall (i j : Nat) (c d : Client), t.clients[i]? = some c ->
    t.clients[j]? = some d -> i ≠ j -> c.own = true -> d.port = c.port ->
      d.relay.phase.isReturned = true

structure Invariant (t : Tunnel) : Prop where
  clients : forall c, c ∈ t.clients -> t.Holds c
  alone : t.Alone
  channel : forall p, p ∈ t.channel -> Carried p
  tracks : exists n r, WriterLoop.Tracks t.writer n r
  framed : forall p, p ∈ t.writer.packets ->
    exists protocol, UsbDevicePacket.WellFramed protocol p

theorem invariant_start : Invariant {} where
  clients := List.forall_mem_nil _
  alone i j c d hc := by
    cases hc
  channel := List.forall_mem_nil _
  tracks := ⟨0, 0, WriterLoop.tracks_start⟩
  framed := List.forall_mem_nil _

theorem Holds.of_packets {t u : Tunnel} {c d : Client} (h : t.Holds c)
    (hport : d.port = c.port) (hrelay : d.relay = c.relay)
    (hbefore : d.before = c.before) (hown : d.own = true -> c.own = true)
    (added : List UsbDevicePacket) (hpackets : u.packets = t.packets ++ added)
    (hdata : d.own = true -> dataFrom c.port added = []) : u.Holds d where
  ofPort := by
    rw [hport, hrelay]
    exact h.ofPort
  balance := by
    intro hd
    rw [hport, hrelay, hbefore, hpackets, dataFrom_append, hdata hd,
      List.append_nil]
    exact h.balance (hown hd)

theorem own_of_disown {shares : Client -> Bool} {c : Client}
    (h : (c.disown shares).own = true) : c.own = true ∧ shares c = false := by
  rcases Bool.and_eq_true_iff.mp h with ⟨hown, hshares⟩
  exact ⟨hown, by simpa using hshares⟩

theorem disown_eq_some {clients : List Client} {shares : Client -> Bool}
    {i : Nat} {c : Client}
    (hc : (clients.map (Client.disown shares))[i]? = some c) :
    exists b, clients[i]? = some b ∧ c = b.disown shares := by
  rw [List.getElem?_map] at hc
  rcases Option.map_eq_some_iff.mp hc with ⟨b, hb, rfl⟩
  exact ⟨b, hb, rfl⟩

theorem concat_eq_some {clients : List Client} {last c : Client} {i : Nat}
    (hc : (clients ++ [last])[i]? = some c) :
    clients[i]? = some c ∨ i = clients.length ∧ c = last := by
  rcases Nat.lt_trichotomy i clients.length with hlt | heq | hgt
  · rw [List.getElem?_append_left hlt] at hc
    exact Or.inl hc
  · subst heq
    rw [List.getElem?_concat_length] at hc
    exact Or.inr ⟨rfl, (Option.some.inj hc).symm⟩
  · have hnone : (clients ++ [last])[i]? = none := by
      rw [List.getElem?_eq_none_iff, List.length_append, List.length_singleton]
      omega
    rw [hnone] at hc
    cases hc

theorem invariant_connect {t : Tunnel} (h : Invariant t)
    {sourcePort : UInt16} {conn : UsbDeviceConn}
    (hconn : ConnOf sourcePort conn) : Invariant (t.connect sourcePort conn) := by
  refine ⟨?_, ?_, h.channel, h.tracks, h.framed⟩
  · intro c hc
    rcases List.mem_append.mp hc with hc | hc
    · rcases List.mem_map.mp hc with ⟨b, hb, rfl⟩
      exact (h.clients b hb).of_packets rfl rfl rfl
        (fun hown => (own_of_disown hown).left) []
        (List.append_nil _).symm (fun _ => rfl)
    · cases List.mem_singleton.mp hc
      exact ⟨⟨hconn, hconn.fits⟩, fun _ _ => rfl⟩
  · intro i j c d hc hd hne hown hport
    rcases concat_eq_some hc with hc | ⟨hi, rfl⟩
    · rcases disown_eq_some hc with ⟨b, hb, rfl⟩
      rcases own_of_disown hown with ⟨hbown, hother⟩
      rcases concat_eq_some hd with hd | ⟨_, rfl⟩
      · rcases disown_eq_some hd with ⟨e, he, rfl⟩
        exact h.alone i j b e hb he hne hbown hport
      · exact absurd hport.symm (of_decide_eq_false hother)
    · rcases concat_eq_some hd with hd | ⟨hj, _⟩
      · rcases disown_eq_some hd with ⟨e, he, rfl⟩
        have hall := List.all_eq_true.mp hown e (List.mem_of_getElem? he)
        rcases Bool.or_eq_true_iff.mp hall with hfree | hreturned
        · exact absurd hport (of_decide_eq_true hfree)
        · exact hreturned
      · exact absurd (hi.trans hj.symm) hne

theorem Alone.ne_port {t : Tunnel} (h : t.Alone) {i j : Nat} {c d : Client}
    (hc : t.clients[i]? = some c) (hd : t.clients[j]? = some d) (hne : i ≠ j)
    (hown : c.own = true) {action : Relay.Action} {u : Relay}
    (hstep : Relay.step d.relay action = some u) : c.port ≠ d.port := by
  intro hport
  have hreturned := h i j c d hc hd hne hown hport.symm
  rw [Relay.step_of_returned hreturned] at hstep
  cases hstep

theorem set_eq_some {clients : List Client} {index i : Nat} {c d : Client}
    (hd : (clients.set index c)[i]? = some d) :
    i = index ∧ d = c ∨ i ≠ index ∧ clients[i]? = some d := by
  by_cases hsame : i = index
  · subst hsame
    rw [List.getElem?_set_self'] at hd
    rcases Option.map_eq_some_iff.mp hd with ⟨_, _, hd⟩
    exact Or.inl ⟨rfl, hd.symm⟩
  · rw [List.getElem?_set_ne (fun heq => hsame heq.symm)] at hd
    exact Or.inr ⟨hsame, hd⟩

theorem alone_set {t u : Tunnel} (h : t.Alone) {index : Nat} {c : Client}
    (hc : t.clients[index]? = some c) {action : Relay.Action} {v : Relay}
    (hstep : Relay.step c.relay action = some v)
    (hclients : u.clients = t.clients.set index { c with relay := v }) :
    u.Alone := by
  intro i j d e hd he hne hown hport
  rw [hclients] at hd he
  rcases set_eq_some hd with ⟨rfl, rfl⟩ | ⟨hi, hold⟩
  · rcases set_eq_some he with ⟨rfl, _⟩ | ⟨_, hother⟩
    · exact absurd rfl hne
    · exact h i j c e hc hother hne hown hport
  · rcases set_eq_some he with ⟨rfl, rfl⟩ | ⟨_, hother⟩
    · exact absurd hport.symm (h.ne_port (d := c) hold hc hi hown hstep)
    · exact h i j d e hold hother hne hown hport

theorem invariant_relay {t u : Tunnel} (h : Invariant t) {index : Nat}
    {action : Relay.Action} (hstep : t.stepRelay index action = some u) :
    Invariant u := by
  rcases Option.bind_eq_some_iff.mp hstep with ⟨c, hc, hmoved⟩
  rcases Option.map_eq_some_iff.mp hmoved with ⟨v, hv, rfl⟩
  have hheld := h.clients c (List.mem_of_getElem? hc)
  rcases Relay.step_passesOn hheld.ofPort hv with ⟨added, hpasses⟩
  have hadded : v.sent.drop c.relay.sent.length = added := by
    rw [hpasses.sent, List.drop_left]
  have hpackets : (t.writer.packets ++
      (t.channel ++ v.sent.drop c.relay.sent.length)) =
        t.packets ++ added := by
    rw [hadded, packets, List.append_assoc]
  refine ⟨?_, alone_set h.alone hc hv rfl, ?_, h.tracks, h.framed⟩
  · intro d hd
    rcases List.mem_iff_getElem?.mp hd with ⟨i, hi⟩
    rcases set_eq_some hi with ⟨rfl, rfl⟩ | ⟨hne, hi⟩
    · refine ⟨hpasses.ofPort, ?_⟩
      intro hown hfailed
      rcases hpasses.balance with ⟨chunk, hread, hmoved⟩
      rcases hmoved hfailed with ⟨hopen, hheld'⟩
      show dataFrom c.port (t.writer.packets ++ _) ++ _ = c.before ++ _
      rw [hpackets, dataFrom_append, dataFrom_self hpasses.fromPort,
        List.append_assoc, hheld', hread, ← List.append_assoc c.before,
        ← hheld.balance hown hopen, List.append_assoc, List.append_assoc]
    · refine (h.clients d (List.mem_of_getElem? hi)).of_packets rfl rfl rfl id
        added ?_ ?_
      · exact hpackets
      · intro hown
        exact dataFrom_other (h.alone.ne_port hi hc hne hown hv)
          hpasses.fromPort
  · intro p hp
    rcases List.mem_append.mp hp with hp | hp
    · exact h.channel p hp
    · rw [hadded] at hp
      exact (hpasses.fromPort p hp).carried

theorem invariant_send {t u : Tunnel} (h : Invariant t)
    {packet : UsbDevicePacket}
    (hcarried : packet.framedSize < 2 ^ 32 -> Carried packet)
    (hstep : t.send packet = some u) : Invariant u := by
  rcases Machine.of_enabled_if hstep with ⟨hfits, hu⟩
  cases hu
  refine ⟨?_, ?_, ?_, h.tracks, h.framed⟩
  · intro c hc
    rcases List.mem_map.mp hc with ⟨b, hb, rfl⟩
    refine (h.clients b hb).of_packets (d := b.disown (HasDataOf packet)) rfl
      rfl rfl (fun hown => (own_of_disown hown).left) [packet]
      (List.append_assoc _ _ _).symm ?_
    intro hown
    apply dataFrom_singleton_of_empty
    intro hport
    have hnone := (own_of_disown hown).right
    unfold HasDataOf at hnone
    rw [hport] at hnone
    simpa using hnone
  · intro i j c d hc hd hne hown hport
    rcases disown_eq_some hc with ⟨b, hb, rfl⟩
    rcases disown_eq_some hd with ⟨e, he, rfl⟩
    exact h.alone i j b e hb he hne (own_of_disown hown).left hport
  · intro p hp
    rcases List.mem_append.mp hp with hp | hp
    · exact h.channel p hp
    · rw [List.mem_singleton.mp hp]
      exact hcarried hfits

theorem dataFrom_renumber (port : UInt16) (k r : Nat)
    (packet : UsbDevicePacket) :
    dataFrom port [WriterLoop.renumber k r packet] = dataFrom port [packet] := by
  unfold dataFrom
  rw [List.filter_singleton, List.filter_singleton]
  show payloads (bif decide (sourcePort? packet = some port) then _ else _) = _
  cases decide (sourcePort? packet = some port) with
  | true => rfl
  | false => rfl

theorem invariant_write {t u : Tunnel} (h : Invariant t)
    {header payload : WriteAll}
    (hstep : t.write checks C header payload = some u) : Invariant u := by
  unfold write at hstep
  split at hstep
  · cases hstep
  · rename_i packet rest hchannel
    rcases Option.map_eq_some_iff.mp hstep with ⟨w, hw, rfl⟩
    rcases h.tracks with ⟨n, r, htracks⟩
    have hcarried := h.channel packet (by
      rw [hchannel]
      exact List.mem_cons_self)
    rcases WriterLoop.writePacket_cases checks C htracks hcarried.plain header
      payload with ⟨hnone, _⟩ | ⟨v, hv, hnext, hpackets, _⟩
    · cases hnone.symm.trans hw
    cases hv.symm.trans hw
    have hmoved : forall port, dataFrom port (w.packets ++ rest) =
        dataFrom port t.packets := by
      intro port
      rw [hpackets, packets, hchannel, List.append_assoc, dataFrom_append,
        dataFrom_append, dataFrom_append, dataFrom_renumber,
        ← dataFrom_append port [packet]]
      rfl
    refine ⟨?_, h.alone, ?_, ⟨_, _, hnext⟩, ?_⟩
    · intro c hc
      have hheld := h.clients c hc
      refine ⟨hheld.ofPort, ?_⟩
      show _ -> _ -> dataFrom c.port (w.packets ++ rest) ++ _ = _
      rw [hmoved]
      exact hheld.balance
    · intro p hp
      apply h.channel
      rw [hchannel]
      exact List.mem_cons_of_mem _ hp
    · intro p hp
      rw [hpackets] at hp
      rcases List.mem_append.mp hp with hp | hp
      · exact h.framed p hp
      · rw [List.mem_singleton.mp hp]
        rcases hcarried.framed with ⟨protocol, hframed⟩
        exact ⟨protocol, wellFramed_renumber hframed _ _⟩

theorem invariant_step {t u : Tunnel} (h : Invariant t) {a : Action}
    (hstep : step checks C F t a = some u) : Invariant u := by
  cases a with
  | connect destinationPort sourcePort sent received window acknowledged =>
      cases hstep
      exact invariant_connect h
        (ConnOf.newFrom destinationPort sent received window acknowledged)
  | relay index action => exact invariant_relay h hstep
  | send build =>
      exact invariant_send h (fun hfits => carried_build F build hfits) hstep
  | receive =>
      cases hstep
      rcases h.tracks with ⟨n, r, htracks⟩
      refine ⟨?_, h.alone, h.channel,
        ⟨n, r + 1, htracks.hbuf, htracks.sendSeq, ?_⟩, h.framed⟩
      · intro c hc
        have hheld := h.clients c hc
        exact ⟨hheld.ofPort, hheld.balance⟩
      · show t.writer.recvSeq + 1 = _
        rw [htracks.recvSeq, WriterLoop.ofNat_add_one]
  | write header payload => exact invariant_write h hstep

structure Written (C : TcpHeaderCodec) (w : WriterLoop) : Prop where
  current : w.current = []
  transfers : w.transfers = w.packets.map (UsbDevicePacket.encode C)

theorem written_step {t u : Tunnel} (h : Invariant t)
    (hwritten : Written C t.writer) {a : Action}
    (hstep : step checks C F t a = some u) (hsucceeds : a.succeeds = true) :
    Written C u.writer := by
  cases a with
  | connect destinationPort sourcePort sent received window acknowledged =>
      cases hstep
      exact hwritten
  | relay index action =>
      rcases Option.bind_eq_some_iff.mp hstep with ⟨c, _, hmoved⟩
      rcases Option.map_eq_some_iff.mp hmoved with ⟨v, _, rfl⟩
      exact hwritten
  | send build =>
      rcases Machine.of_enabled_if hstep with ⟨_, hu⟩
      cases hu
      exact hwritten
  | receive =>
      cases hstep
      exact ⟨hwritten.current, hwritten.transfers⟩
  | write header payload =>
      change t.write checks C header payload = some u at hstep
      unfold write at hstep
      split at hstep
      · cases hstep
      · rename_i packet rest hchannel
        rcases Option.map_eq_some_iff.mp hstep with ⟨w, hw, rfl⟩
        rcases h.tracks with ⟨n, r, htracks⟩
        have hcarried := h.channel packet (by
          rw [hchannel]
          exact List.mem_cons_self)
        rcases WriterLoop.writePacket_cases checks C htracks hcarried.plain
          header payload with ⟨hnone, _⟩ | ⟨v, hv, _, hpackets, hdone⟩
        · cases hnone.symm.trans hw
        cases hv.symm.trans hw
        rcases Bool.and_eq_true_iff.mp hsucceeds with ⟨hheader, hpayload⟩
        rcases hdone hheader hpayload with ⟨hcurrent, htransfers⟩
        refine ⟨hcurrent, ?_⟩
        rw [htransfers, hpackets, hwritten.current, hwritten.transfers,
          List.map_append]
        rfl

/--
Whatever the interleaving of the relays, the other tasks and the loops, and in
whatever chunks the bytes arrive: from what the device decodes, the data of the
port of a client that has it for itself are the client's bytes, up to those that
are still on the channel, in the hands of the relay or in its buffer.
-/
theorem device_receives (checks : Bool) (C : TcpHeaderCodec)
    (F : Plist.Format) {actions : List Action} {t : Tunnel}
    (hrun : Machine.run (step checks C F) {} actions = some t)
    (hsucceeds : forall a, a ∈ actions -> a.succeeds = true)
    {source : List Chunk}
    (hsource : Chunk.bytes source = t.writer.transfers.flatten)
    (ending : IoError) {n : Nat} (hn : t.writer.packets.length < n) :
    exists packets,
      (UsbDevicePacket.fromChunks C.toTcpHeaderReader ending).readMany n
          source = (packets, some (.error (.io ending) [])) ∧
        forall c, c ∈ t.clients -> c.own = true -> c.relay.failed = false ->
          dataFrom c.port packets ++ (dataFrom c.port t.channel ++
              (c.relay.phase.unsent ++ c.relay.readBuf)) =
            c.before ++ c.relay.clientRead := by
  have hguarded := Machine.guarded_of_mem (M := step checks C F) hsucceeds {}
  have hboth := Machine.throughout_of_guarded
    (I := fun u => Invariant u ∧ Written C u.writer)
    (fun u a v hu hstep hsucceeds => ⟨invariant_step hu.left hstep,
      written_step hu.left hu.right hstep hsucceeds⟩)
    ⟨invariant_start, rfl, rfl⟩ hguarded
  rcases hboth.last hrun with ⟨hinvariant, hwritten⟩
  refine ⟨t.writer.packets, ?_, ?_⟩
  · apply readMany_wellFramed C ending hinvariant.framed _ hn
    rw [hsource, hwritten.transfers, ← List.flatMap_def]
  · intro c hc hown hfailed
    have hbalance := (hinvariant.clients c hc).balance hown hfailed
    rw [packets, dataFrom_append, List.append_assoc] at hbalance
    exact hbalance

/--
Two clients, the second of which overtakes the first, and a third one that gets
the port of the first, whose relay still runs.
-/
def twoClients : List Action :=
  [.connect 62078 1 1 1 UsbDeviceConn.windowSize 1,
    .connect 49152 2 1 1 UsbDeviceConn.windowSize 1,
    .relay 0 (.clientRead (.ok [0x07, 0x08])),
    .relay 1 (.clientRead (.ok [0x09])),
    .relay 1 (.sendBytes .sent), .relay 0 (.sendBytes .sent),
    .connect 62078 1 1 1 UsbDeviceConn.windowSize 1,
    .send (.setup [0x07]), .write .done .done, .receive, .write .done .done,
    .relay 1 (.clientRead (.ok [0x0a]))]

def twoClientsEnd : Tunnel :=
  (Machine.run (step true .standard UsbDevicePacket.withoutPlists) {}
    twoClients).getD {}

def twoClientsBytes : List UInt8 :=
  twoClientsEnd.writer.transfers.flatten

theorem device_receives_twoClients :
    twoClientsEnd.clients.map Client.own = [false, true, false] ∧
      exists packets,
        (UsbDevicePacket.fromChunks TcpHeaderCodec.standard.toTcpHeaderReader
            UsbDevicePacket.earlyEof).readMany 3
          [⟨twoClientsBytes.take 50, nofun⟩,
            ⟨twoClientsBytes.drop 50, nofun⟩] =
            (packets, some (.error (.io UsbDevicePacket.earlyEof) [])) ∧
          forall c, c ∈ twoClientsEnd.clients -> c.own = true ->
            c.relay.failed = false ->
            dataFrom c.port packets ++
                (dataFrom c.port twoClientsEnd.channel ++
                  (c.relay.phase.unsent ++ c.relay.readBuf)) =
              c.before ++ c.relay.clientRead := by
  have hrun : Machine.run
      (step true .standard UsbDevicePacket.withoutPlists) {} twoClients =
        some twoClientsEnd := rfl
  exact ⟨by decide, device_receives true .standard
    UsbDevicePacket.withoutPlists hrun (by decide) rfl
    UsbDevicePacket.earlyEof (by decide)⟩

end Tunnel

end Handler
end Rusbmux
