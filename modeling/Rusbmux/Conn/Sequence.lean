import Rusbmux.Conn.Handshake
import Rusbmux.Foundation.Machine

/-!
# Sequence and acknowledgment numbers

A single task uses a connection through `recv`, `send_bytes`, `send_plist` and
`close`.  The bytes sent are counted when a data packet is on the channel, the
bytes received are taken from the headers of the device, and `recv` counts its
packet before it waits to send the ACK, so that nothing is lost if it is
cancelled there.
-/

namespace Rusbmux

open Foundation
open Rusbmux.Parser

def payloadTotal (packets : List UsbDevicePacket) : Nat :=
  (packets.map fun packet => packet.payload.len).sum

theorem payloadTotal_append_singleton (packets : List UsbDevicePacket)
    (packet : UsbDevicePacket) :
    payloadTotal (packets ++ [packet]) =
      payloadTotal packets + packet.payload.len := by
  rw [payloadTotal, List.map_append, List.sum_append, List.map_singleton,
    List.sum_singleton]
  rfl

theorem ofNat_payloadTotal_append (base : UInt32)
    (packets : List UsbDevicePacket) (packet : UsbDevicePacket) :
    base + .ofNat (payloadTotal (packets ++ [packet])) =
      base + .ofNat (payloadTotal packets) + .ofNat packet.payload.len := by
  rw [payloadTotal_append_singleton, UInt32.ofNat_add, UInt32.add_assoc]

def UsbDeviceConn.buildPlist (F : Plist.Format) (conn : UsbDeviceConn)
    (value : Plist.Value) : UsbDevicePacket :=
  UsbDevicePacket.builder
    |>.headerTcp autoSeq autoSeq
    |>.tcpHeader conn.sourcePort conn.destinationPort conn.sentBytes
      conn.receivedBytes .ack
    |>.payloadPlist value
    |>.buildPlist F

structure ConnUse where
  conn : UsbDeviceConn
  enqueued : List UsbDevicePacket := []
  dequeued : List UsbDevicePacket := []

namespace ConnUse

/--
A call that gets past its first wait.  The answer is that of the channel to the
writer loop; a call that is cancelled while it waits for room has found it full.
-/
inductive Action where
  | recv (packet : UsbDevicePacket) (answer : SendAnswer)
  | sendBytes (value : List UInt8) (answer : SendAnswer)
  | sendPlist (value : Plist.Value) (answer : SendAnswer)
  | close (answer : SendAnswer)
  | closeBlocking (answer : SendAnswer)

def ack (u : ConnUse) : SendAnswer -> ConnUse
  | .sent =>
      { u with
        enqueued := u.enqueued ++ [u.conn.buildFlag .ack]
        conn := u.conn.updateSendableBytes }
  | .full | .disconnected => u

def recv (u : ConnUse) (packet : UsbDevicePacket) (answer : SendAnswer) :
    ConnUse :=
  { u with
    dequeued := u.dequeued ++ [packet]
    conn := u.conn.updateStates packet }.ack answer

def sendPacket (u : ConnUse) (packet : UsbDevicePacket) :
    SendAnswer -> ConnUse
  | .sent =>
      { u with
        enqueued := u.enqueued ++ [packet]
        conn := u.conn.packetSent packet }
  | .full | .disconnected => u

def sendRst (u : ConnUse) : SendAnswer -> ConnUse
  | .sent =>
      { u with
        enqueued := u.enqueued ++ [u.conn.buildFlag .rst]
        conn := u.conn.setDropped }
  | .full | .disconnected => u

def step (F : Plist.Format) : Machine ConnUse Action := fun u a =>
  match a with
  | .recv packet answer => some (u.recv packet answer)
  | .sendBytes value answer =>
      some (u.sendPacket (u.conn.buildBytes value) answer)
  | .sendPlist value answer =>
      some (u.sendPacket (u.conn.buildPlist F value) answer)
  | .close answer => some (u.sendRst answer)
  | .closeBlocking answer => some (u.sendRst answer)

def init (conn : UsbDeviceConn) : ConnUse where
  conn := conn

/-!
## The two counters
-/

/-- The device numbers its packets by the payload bytes before them. -/
def InOrder (u : ConnUse) : Action -> Prop
  | .recv packet _ =>
      exists tcpHdr, packet.tcpHdr = some tcpHdr ∧
        tcpHdr.sequenceNumber = 1 + .ofNat (payloadTotal u.dequeued)
  | .sendBytes _ _ | .sendPlist _ _ | .close _ | .closeBlocking _ => True

def Numbered (base : UInt32) (u v : ConnUse) (packet : UsbDevicePacket) :
    Prop :=
  exists tcpHdr, packet.tcpHdr = some tcpHdr ∧
    tcpHdr.sequenceNumber = base + .ofNat (payloadTotal u.enqueued) ∧
    tcpHdr.acknowledgmentNumber = 1 + .ofNat (payloadTotal v.dequeued)

def EnqueuesNumbered (base : UInt32) (u v : ConnUse) : Prop :=
  v.enqueued = u.enqueued ∨
    exists packet, v.enqueued = u.enqueued ++ [packet] ∧
      Numbered base u v packet

structure Counts (base : UInt32) (u : ConnUse) : Prop where
  sent : u.conn.sentBytes = base + .ofNat (payloadTotal u.enqueued)
  received : u.conn.receivedBytes = 1 + .ofNat (payloadTotal u.dequeued)

namespace Counts

variable {base : UInt32} {u : ConnUse}

theorem dequeued (h : Counts base u) {packet : UsbDevicePacket}
    {answer : SendAnswer} (horder : u.InOrder (.recv packet answer)) :
    Counts base
      { u with
        dequeued := u.dequeued ++ [packet]
        conn := u.conn.updateStates packet } := by
  rcases horder with ⟨tcpHdr, hsome, hnumber⟩
  constructor
  · show (u.conn.updateStates packet).sentBytes = _
    unfold UsbDeviceConn.updateStates
    rw [hsome]
    exact h.sent
  · show (u.conn.updateStates packet).receivedBytes = _
    rw [UsbDeviceConn.updateStates_receivedBytes,
      UsbDeviceConn.receivedAfter, hsome, ofNat_payloadTotal_append, ← hnumber]

theorem enqueued_flag (h : Counts base u) (tcpFlag : TcpFlags) :
    base + .ofNat (payloadTotal (u.enqueued ++ [u.conn.buildFlag tcpFlag])) =
      u.conn.sentBytes := by
  rw [ofNat_payloadTotal_append, h.sent]
  exact UInt32.add_zero _

theorem ack (h : Counts base u) (answer : SendAnswer) :
    Counts base (u.ack answer) := by
  cases answer with
  | sent => exact ⟨(h.enqueued_flag .ack).symm, h.received⟩
  | full => exact h
  | disconnected => exact h

theorem sendRst (h : Counts base u) (answer : SendAnswer) :
    Counts base (u.sendRst answer) := by
  cases answer with
  | sent => exact ⟨(h.enqueued_flag .rst).symm, h.received⟩
  | full => exact h
  | disconnected => exact h

theorem sendPacket (h : Counts base u) (packet : UsbDevicePacket)
    (answer : SendAnswer) : Counts base (u.sendPacket packet answer) := by
  cases answer with
  | sent =>
      constructor
      · show u.conn.sentBytes + .ofNat packet.payload.len =
          base + .ofNat (payloadTotal (u.enqueued ++ [packet]))
        rw [ofNat_payloadTotal_append, h.sent]
      · exact h.received
  | full => exact h
  | disconnected => exact h

end Counts

theorem counts_step {F : Plist.Format} {base : UInt32} {u v : ConnUse}
    {a : Action} (h : Counts base u) (hstep : step F u a = some v)
    (horder : u.InOrder a) : Counts base v := by
  cases a with
  | recv packet answer =>
      cases hstep
      exact (h.dequeued horder).ack answer
  | sendBytes value answer =>
      cases hstep
      exact h.sendPacket _ answer
  | sendPlist value answer =>
      cases hstep
      exact h.sendPacket _ answer
  | close answer =>
      cases hstep
      exact h.sendRst answer
  | closeBlocking answer =>
      cases hstep
      exact h.sendRst answer

/-!
## The numbers of a packet
-/

section

variable {base : UInt32} {u : ConnUse}

theorem ack_numbered (h : Counts base u) (answer : SendAnswer) :
    EnqueuesNumbered base u (u.ack answer) := by
  cases answer with
  | sent => exact Or.inr ⟨_, rfl, _, rfl, h.sent, h.received⟩
  | full => exact Or.inl rfl
  | disconnected => exact Or.inl rfl

theorem sendRst_numbered (h : Counts base u) (answer : SendAnswer) :
    EnqueuesNumbered base u (u.sendRst answer) := by
  cases answer with
  | sent => exact Or.inr ⟨_, rfl, _, rfl, h.sent, h.received⟩
  | full => exact Or.inl rfl
  | disconnected => exact Or.inl rfl

theorem sendPacket_numbered {packet : UsbDevicePacket} {tcpHdr : TcpHeader}
    (h : Counts base u) (hsome : packet.tcpHdr = some tcpHdr)
    (hsequence : tcpHdr.sequenceNumber = u.conn.sentBytes)
    (hack : tcpHdr.acknowledgmentNumber = u.conn.receivedBytes)
    (answer : SendAnswer) :
    EnqueuesNumbered base u (u.sendPacket packet answer) := by
  cases answer with
  | sent =>
      exact Or.inr ⟨packet, rfl, tcpHdr, hsome, hsequence.trans h.sent,
        hack.trans h.received⟩
  | full => exact Or.inl rfl
  | disconnected => exact Or.inl rfl

theorem step_numbered {F : Plist.Format} {v : ConnUse} {a : Action}
    (h : Counts base u) (hstep : step F u a = some v)
    (horder : u.InOrder a) : EnqueuesNumbered base u v := by
  cases a with
  | recv packet answer =>
      cases hstep
      exact ack_numbered (h.dequeued horder) answer
  | sendBytes value answer =>
      cases hstep
      exact sendPacket_numbered h rfl rfl rfl answer
  | sendPlist value answer =>
      cases hstep
      exact sendPacket_numbered h rfl rfl rfl answer
  | close answer =>
      cases hstep
      exact sendRst_numbered h answer
  | closeBlocking answer =>
      cases hstep
      exact sendRst_numbered h answer

end

theorem counts_init (sourcePort destinationPort : UInt16)
    (tcpHdr : TcpHeader) :
    Counts tcpHdr.acknowledgmentNumber
      (init (.ofHandshake sourcePort destinationPort
        (.ofSynAck tcpHdr))) where
  sent := (UInt32.add_zero _).symm
  received := rfl

/--
After any handshake, every packet that is enqueued carries the numbers of the
payload bytes before it, however the calls are ordered or cancelled and however
often the counters wrap around.
-/
theorem enqueuesNumbered_throughout (F : Plist.Format)
    (sourcePort destinationPort : UInt16) (answers : HandshakeAnswers)
    {handshake : TcpHandshake} {tcpSynAck : UsbDevicePacket}
    {tcpHdr : TcpHeader}
    (hperform : (TcpHandshake.perform sourcePort destinationPort
      answers).result = .ok handshake)
    (hsynAck : answers.synAck = some tcpSynAck)
    (htcpHdr : tcpSynAck.tcpHdr = some tcpHdr) (actions : List Action)
    (horder : Machine.Guarded (step F) InOrder
      (init (.ofHandshake sourcePort destinationPort handshake)) actions) :
    Machine.Stepwise (step F)
      (fun u _ v => EnqueuesNumbered tcpHdr.acknowledgmentNumber u v)
      (init (.ofHandshake sourcePort destinationPort handshake)) actions := by
  rcases TcpHandshake.perform_eq_ok hperform with
    ⟨packet, hdr, hpacket, hhdr, rfl⟩
  cases hsynAck.symm.trans hpacket
  cases htcpHdr.symm.trans hhdr
  intro pre a u v hpre hrun hstep
  have hcounts := Machine.throughout_of_guarded
    (fun _ _ _ => counts_step)
    (counts_init sourcePort destinationPort tcpHdr) horder
  have hfront : pre <+: actions := (List.prefix_append pre [a]).trans hpre
  exact step_numbered (hcounts pre u hfront hrun) hstep
    (horder pre a u v hpre hrun hstep)

def acceptedAnswers : HandshakeAnswers where
  synAck := some (TcpHandshake.buildFlag 62078 1 0 1 ⟨3⟩)

def cancelledRecv : List Action :=
  [.recv ((UsbDeviceConn.opened 1 62078).buildBytes [0x2a]) .full,
    .sendBytes [0x07] .sent, .close .sent]

theorem cancelledRecv_inOrder (F : Plist.Format) (conn : UsbDeviceConn) :
    Machine.Guarded (step F) InOrder (init conn) cancelledRecv := by
  unfold cancelledRecv
  rw [Machine.guarded_cons]
  intro u hu
  cases hu
  refine ⟨⟨_, rfl, rfl⟩, ?_⟩
  rw [Machine.guarded_cons]
  intro u hu
  cases hu
  refine ⟨trivial, ?_⟩
  rw [Machine.guarded_cons]
  intro u hu
  cases hu
  exact ⟨trivial, Machine.guarded_nil _ _ _⟩

theorem enqueuesNumbered_throughout_cancelledRecv :
    Machine.Stepwise (step ⟨fun _ => .error ⟨""⟩, fun _ => []⟩)
      (fun u _ v => EnqueuesNumbered 1 u v)
      (init (.ofHandshake 1 62078 ⟨1, 1, UsbDeviceConn.windowSize, 1⟩))
      cancelledRecv :=
  enqueuesNumbered_throughout _ 1 62078 acceptedAnswers rfl rfl rfl
    cancelledRecv (cancelledRecv_inOrder _ _)

end ConnUse

end Rusbmux
