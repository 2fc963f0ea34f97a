import Rusbmux.Conn.FlowControl
import Rusbmux.Handler.Connect
import Rusbmux.Provider.ReadExact

/-!
# Flow control over whole runs

Both users of a connection read what can be sent once and use it later: the
relay when its round of `select!` ends, the stream when a parked packet gets
room.  In between they only receive, which never takes anything back.
-/

namespace Rusbmux

open Foundation
open Rusbmux.Parser

theorem UsbDeviceConn.buildBytes_len (conn : UsbDeviceConn)
    (value : List UInt8) : (conn.buildBytes value).payload.len = value.length :=
  rfl

/-!
## The relay
-/

namespace Handler
namespace Relay

variable {D : DeviceWindow} {s t : Relay}

def PhaseFits (D : DeviceWindow) (received sent : List UsbDevicePacket) :
    Phase -> Prop
  | .selecting .waiting sendable => D.CanSend received sent sendable
  | .selecting (.acking _ tcpAck) sendable =>
      D.CanSend received sent sendable ∧ tcpAck.payload.len = 0
  | .uploading packet => D.CanSend received sent packet.payload.len
  | .closing rstPacket => rstPacket.payload.len = 0
  | .forwarding _ | .returned _ => True

structure Flows (D : DeviceWindow) (s : Relay) : Prop where
  keeps : D.Keeps s.conn s.received s.sent
  phase : PhaseFits D s.received s.sent s.phase

def FlowsIf (D : DeviceWindow) (s : Relay) : Prop :=
  KeepsEdge D.acknowledged D.initial s.received -> Flows D s

theorem Flows.canSend (h : Flows D s) {recv : RecvFuture} {sendable : Nat}
    (hphase : s.phase = .selecting recv sendable) :
    D.CanSend s.received s.sent sendable := by
  have hfits := h.phase
  rw [hphase] at hfits
  cases recv with
  | waiting => exact hfits
  | acking response tcpAck => exact hfits.left

theorem flows_select (h : D.Keeps s.conn s.received s.sent) :
    Flows D s.select :=
  ⟨h, h.canSend (Nat.le_refl _)⟩

theorem flows_leave (h : D.Keeps s.conn s.received s.sent)
    (result : Except RusbmuxError Unit) : Flows D (s.leave result) :=
  ⟨h, trivial⟩

theorem flows_fail (h : D.Keeps s.conn s.received s.sent)
    (err : RusbmuxError) : Flows D (s.fail err) :=
  ⟨h, trivial⟩

theorem flows_clientSend (h : D.Keeps s.conn s.received s.sent)
    (payload : List UInt8) : Flows D (s.clientSend payload) := by
  unfold clientSend
  split
  · exact flows_select h
  · exact ⟨h, trivial⟩

theorem flows_ack (h : D.Keeps s.conn s.received s.sent)
    {tcpAck : UsbDevicePacket} {sendable : Nat}
    (hsend : D.CanSend s.received s.sent sendable)
    (hack : tcpAck.payload.len = 0) (response : UsbDevicePacket)
    (answer : SendAnswer) :
    Flows D (s.ack response tcpAck sendable answer) := by
  cases answer with
  | sent => exact flows_clientSend (h.flagSent hack).updateSendableBytes _
  | full => exact ⟨h, hsend, hack⟩
  | disconnected => exact flows_fail h _

theorem flows_clientPacket (h : D.Keeps s.conn s.received s.sent)
    {sendable : Nat} (hsend : D.CanSend s.received s.sent sendable) :
    Flows D (s.clientPacket sendable) := by
  unfold clientPacket
  simp only
  split
  · exact ⟨h, rfl⟩
  · refine ⟨h, hsend.mono ?_⟩
    rw [UsbDeviceConn.buildBytes_len, List.length_take]
    exact Nat.le_trans (Nat.min_le_left _ _) (Nat.min_le_left _ _)

theorem flows_recvPacket {packet : UsbDevicePacket} {answer : SendAnswer}
    (h : FlowsIf D s) (hstep : s.recvPacket packet answer = some t)
    (hreceived : t.received = s.received ++ [packet]) : FlowsIf D t := by
  intro hedge
  rw [hreceived] at hedge
  have hs := h (hedge.of_prefix (List.prefix_append _ _))
  have hadvertises := hedge s.received packet (List.prefix_refl _)
  rcases recvPacket_eq_some hstep with ⟨sendable, hphase, rfl⟩
  exact flows_ack (hs.keeps.updateStates hadvertises)
    ((hs.canSend hphase).packetReceived hadvertises) rfl packet answer

theorem ack_received (s : Relay) (response tcpAck : UsbDevicePacket)
    (sendable : Nat) (answer : SendAnswer) :
    (s.ack response tcpAck sendable answer).received = s.received := by
  cases answer with
  | sent =>
      show (clientSend _ response.payload.encode).received = s.received
      unfold clientSend
      split
      · rfl
      · rfl
  | full => rfl
  | disconnected => rfl

theorem recvPacket_received {packet : UsbDevicePacket} {answer : SendAnswer}
    (hstep : s.recvPacket packet answer = some t) :
    t.received = s.received ++ [packet] := by
  rcases recvPacket_eq_some hstep with ⟨sendable, _, rfl⟩
  exact ack_received _ packet _ sendable answer

theorem flowsIf_of (h : FlowsIf D s) (hreceived : t.received = s.received)
    (hkeeps : Flows D s -> Flows D t) : FlowsIf D t := by
  intro hedge
  rw [hreceived] at hedge
  exact hkeeps (h hedge)

theorem flows_shutdown (h : FlowsIf D s) (hstep : s.shutdown = some t) :
    FlowsIf D t := by
  rcases shutdown_eq_some hstep with ⟨_, _, _, rfl⟩
  exact flowsIf_of h rfl fun hs => flows_leave hs.keeps _

theorem flows_recvDisconnected (h : FlowsIf D s)
    (hstep : s.recvDisconnected = some t) : FlowsIf D t := by
  rcases recvDisconnected_eq_some hstep with ⟨_, _, rfl⟩
  exact flowsIf_of h rfl fun hs => flows_leave hs.keeps _

theorem flows_recvAck {answer : SendAnswer} (h : FlowsIf D s)
    (hstep : s.recvAck answer = some t) : FlowsIf D t := by
  rcases recvAck_eq_some hstep with
    ⟨response, tcpAck, sendable, hphase, rfl⟩
  apply flowsIf_of h (ack_received _ _ _ _ _)
  intro hs
  have hfits := hs.phase
  rw [hphase] at hfits
  exact flows_ack hs.keeps hfits.left hfits.right response answer

theorem clientPacket_received (s : Relay) (sendable : Nat) :
    (s.clientPacket sendable).received = s.received := by
  unfold clientPacket
  simp only
  split
  · rfl
  · rfl

theorem flows_readClient {answer : Except IoError (List UInt8)}
    (h : FlowsIf D s) (hstep : s.readClient answer = some t) :
    FlowsIf D t := by
  rcases readClient_cases hstep with
    ⟨recv, sendable, hphase, _, hbuffered | hfailed | hread⟩
  · rcases hbuffered with ⟨_, rfl⟩
    exact flowsIf_of h (clientPacket_received s sendable) fun hs =>
      flows_clientPacket hs.keeps (hs.canSend hphase)
  · rcases hfailed with ⟨err, _, rfl⟩
    exact flowsIf_of h rfl fun hs => flows_leave hs.keeps _
  · rcases hread with ⟨chunk, _, _, rfl⟩
    apply flowsIf_of h
    · exact clientPacket_received _ sendable
    · intro hs
      have hsend := hs.canSend hphase
      exact flows_clientPacket (s := { s with
        readBuf := chunk
        clientRead := s.clientRead ++ chunk }) hs.keeps hsend

theorem clientSend_received (s : Relay) (payload : List UInt8) :
    (s.clientSend payload).received = s.received := by
  unfold clientSend
  split
  · rfl
  · rfl

theorem flows_writeClient {answer : Except IoError Nat} (h : FlowsIf D s)
    (hstep : s.writeClient answer = some t) : FlowsIf D t := by
  rcases writeClient_cases hstep with
    ⟨rest, _, ⟨err, _, rfl⟩ | ⟨n, _, _, rfl⟩⟩
  · exact flowsIf_of h rfl fun hs => flows_fail hs.keeps _
  · apply flowsIf_of h
    · exact clientSend_received _ _
    · intro hs
      exact flows_clientSend (s := { s with
        written := s.written ++ rest.take n }) hs.keeps (rest.drop n)

theorem flows_sendBytes {answer : SendAnswer} (h : FlowsIf D s)
    (hstep : s.sendBytes answer = some t) : FlowsIf D t := by
  rcases sendBytes_cases hstep with
    ⟨packet, hphase, ⟨_, rfl⟩ | ⟨_, rfl⟩ | ⟨_, rfl⟩⟩
  · apply flowsIf_of h
    · rfl
    · intro hs
      have hfits := hs.phase
      rw [hphase] at hfits
      exact flows_select (hs.keeps.packetSent hfits)
  · exact h
  · exact flowsIf_of h rfl fun hs => flows_fail hs.keeps _

theorem flows_sendRst {answer : SendAnswer} (h : FlowsIf D s)
    (hstep : s.sendRst answer = some t) : FlowsIf D t := by
  rcases sendRst_cases hstep with
    ⟨rstPacket, hphase, ⟨_, rfl⟩ | ⟨_, rfl⟩ | ⟨_, rfl⟩⟩
  · apply flowsIf_of h
    · rfl
    · intro hs
      have hfits := hs.phase
      rw [hphase] at hfits
      exact flows_leave (hs.keeps.flagSent hfits).setDropped _
  · exact h
  · exact flowsIf_of h rfl fun hs => flows_fail hs.keeps _

theorem flows_step {a : Action} (h : FlowsIf D s) (hstep : step s a = some t) :
    FlowsIf D t := by
  cases a with
  | shutdown => exact flows_shutdown h hstep
  | recvPacket packet answer =>
      exact flows_recvPacket h hstep (recvPacket_received hstep)
  | recvDisconnected => exact flows_recvDisconnected h hstep
  | recvAck answer => exact flows_recvAck h hstep
  | clientRead answer => exact flows_readClient h hstep
  | clientWrite answer => exact flows_writeClient h hstep
  | sendBytes answer => exact flows_sendBytes h hstep
  | sendRst answer => exact flows_sendRst h hstep

end Relay
end Handler

/-!
## The stream
-/

namespace Provider
namespace RusbmuxStream

variable {D : DeviceWindow} {s : RusbmuxStream}

structure Flows (D : DeviceWindow) (s : RusbmuxStream) : Prop where
  keeps : D.Keeps s.conn s.readStream s.writeSink
  parked : forall packet, s.writePacket = some packet ->
    D.CanSend s.readStream s.writeSink packet.payload.len

theorem Flows.of_nothingParked (h : D.Keeps s.conn s.readStream s.writeSink)
    (hnone : s.writePacket = none) : Flows D s where
  keeps := h
  parked := by
    intro packet hpacket
    rw [hnone] at hpacket
    cases hpacket

def FlowsIf (D : DeviceWindow) (s : RusbmuxStream) : Prop :=
  KeepsEdge D.acknowledged D.initial s.readStream -> Flows D s

theorem flows_sendFlag (h : FlowsIf D s) (tcpFlag : TcpFlags)
    (answer : SendAnswer) : FlowsIf D (s.pollSendFlag tcpFlag answer).fst := by
  cases answer with
  | sent =>
      intro hedge
      have hs := h hedge
      exact ⟨(hs.keeps.flagSent rfl).updateSendableBytes,
        fun packet hpacket => (hs.parked packet hpacket).flagSent rfl⟩
  | full => exact h
  | disconnected => exact h

theorem flows_recv (h : FlowsIf D s) (answer : RecvAnswer) :
    FlowsIf D (s.pollRecv answer).fst := by
  cases answer with
  | item packet =>
      intro hedge
      have hs := h (hedge.of_prefix (List.prefix_append _ _))
      have hadvertises := hedge s.readStream packet (List.prefix_refl _)
      exact ⟨hs.keeps.updateStates hadvertises, fun parked hparked =>
        (hs.parked parked hparked).packetReceived hadvertises⟩
  | disconnected => exact h
  | pending => exact h

theorem flows_sendPending {packet : UsbDevicePacket} (h : FlowsIf D s)
    (hpacket : s.writePacket = some packet) (answer : SendAnswer) :
    FlowsIf D
      ({ s with writePacket := none }.pollSendPending packet answer).fst := by
  cases answer with
  | sent =>
      intro hedge
      have hs := h hedge
      exact Flows.of_nothingParked
        (hs.keeps.packetSent (hs.parked packet hpacket)) rfl
  | full =>
      intro hedge
      have hs := h hedge
      refine ⟨hs.keeps, ?_⟩
      intro parked hparked
      exact hs.parked parked (hpacket.trans hparked)
  | disconnected =>
      intro hedge
      exact Flows.of_nothingParked (h hedge).keeps rfl

theorem flows_build (h : FlowsIf D s) {n : Nat} (hn : n <= s.conn.sendableBytes)
    (buf : List UInt8) :
    FlowsIf D { s with
      lastWriteLen := n
      writePacket := some (s.conn.buildBytes (buf.take n)) } := by
  intro hedge
  have hs := h hedge
  refine ⟨hs.keeps, ?_⟩
  intro packet hbuilt
  cases hbuilt
  apply hs.keeps.canSend
  rw [UsbDeviceConn.buildBytes_len, List.length_take]
  exact Nat.le_trans (Nat.min_le_left _ _) hn

theorem callsKeep_flows (D : DeviceWindow) : CallsKeep (FlowsIf D) where
  ack := fun _ answer h => flows_sendFlag h .ack answer
  recv := fun _ answer h => flows_recv h answer
  handOut := fun _ _ h hedge => ⟨(h hedge).keeps, (h hedge).parked⟩
  pending := fun _ _ answer hpacket h => flows_sendPending h hpacket answer
  build := fun _ buf h => flows_build h (Nat.min_le_right _ _) buf
  rst := fun _ answer h => flows_sendFlag h .rst answer
  dropped := fun _ h hedge => ⟨(h hedge).keeps.setDropped, (h hedge).parked⟩

end RusbmuxStream

namespace StreamUse

open RusbmuxStream

variable {D : DeviceWindow} {u : StreamUse}

/-- The stream keeps to the window, also between the rounds of a call. -/
structure FlowsThroughCalls (D : DeviceWindow) (u : StreamUse) : Prop where
  atRest : KeepsEdge D.acknowledged D.initial u.stream.readStream ->
    D.FlowControlled u.stream.readStream u.stream.writeSink
  inWrite : forall buf rounds s,
    pollRounds (pollWriteRound buf) u.stream rounds = s ->
      KeepsEdge D.acknowledged D.initial s.readStream ->
        D.FlowControlled s.readStream s.writeSink

theorem flowsThroughCalls (h : FlowsIf D u.stream) :
    u.FlowsThroughCalls D where
  atRest := fun hedge => (h hedge).keeps.controls
  inWrite := by
    intro buf rounds s hs hedge
    have hkeeps := pollRounds_keeps ((callsKeep_flows D).writeRound buf) h
      rounds
    rw [hs] at hkeeps
    exact (hkeeps hedge).keeps.controls

end StreamUse
end Provider

/--
After any handshake, whoever uses the connection, and whatever the device does
short of moving its right edge back: no data packet is too large, and what is on
its way fits into the window announced last.
-/
theorem UsbDeviceConn.flowControlled (sourcePort destinationPort : UInt16)
    (answers : HandshakeAnswers) {handshake : TcpHandshake}
    {tcpSynAck : UsbDevicePacket} {tcpHdr : TcpHeader}
    (hperform : (TcpHandshake.perform sourcePort destinationPort
      answers).result = .ok handshake)
    (hsynAck : answers.synAck = some tcpSynAck)
    (htcpHdr : tcpSynAck.tcpHdr = some tcpHdr)
    (acknowledged : List UsbDevicePacket -> Nat)
    (hacknowledged : acknowledged [] = tcpHdr.acknowledgmentNumber.toNat) :
    (forall actions s,
      Machine.run Handler.Relay.step
          (.init (.ofHandshake sourcePort destinationPort handshake)) actions =
        some s ->
      KeepsEdge acknowledged tcpHdr.windowSize s.received ->
        DeviceWindow.FlowControlled ⟨acknowledged, tcpHdr.windowSize⟩
          s.received s.sent) ∧
      forall actions u,
        Machine.run Provider.StreamUse.step
            (.init (.ofHandshake sourcePort destinationPort handshake))
            actions =
          some u ->
        u.FlowsThroughCalls ⟨acknowledged, tcpHdr.windowSize⟩ := by
  rcases TcpHandshake.perform_eq_ok hperform with
    ⟨packet, hdr, hpacket, hhdr, rfl⟩
  cases hsynAck.symm.trans hpacket
  cases htcpHdr.symm.trans hhdr
  have hkeeps := DeviceWindow.keeps_ofHandshake sourcePort destinationPort
    tcpHdr acknowledged hacknowledged
  constructor
  · intro actions s hrun hedge
    have hflows := Machine.run_invariant (I := Handler.Relay.FlowsIf _)
      (fun _ _ _ => Handler.Relay.flows_step)
      (fun _ => Handler.Relay.flows_select
        (s := .init (.ofHandshake sourcePort destinationPort _)) hkeeps) hrun
    exact (hflows hedge).keeps.controls
  · intro actions u hrun
    have hflows := Machine.run_invariant
      (I := fun u : Provider.StreamUse =>
        Provider.RusbmuxStream.FlowsIf ⟨acknowledged, tcpHdr.windowSize⟩
          u.stream)
      (fun _ _ _ => Provider.StreamUse.step_keeps
        (Provider.RusbmuxStream.callsKeep_flows _))
      (fun _ => Provider.RusbmuxStream.Flows.of_nothingParked hkeeps rfl) hrun
    exact Provider.StreamUse.flowsThroughCalls hflows

def windowPacket (sequenceNumber acknowledged : UInt32) (window : UInt16)
    (flags : TcpFlags) : UsbDevicePacket :=
  let packet :=
    TcpHandshake.buildFlag 62078 1 sequenceNumber acknowledged flags
  { packet with tcpHdr := packet.tcpHdr.map fun tcpHdr =>
      { tcpHdr with windowSize := window } }

def narrowSynAck : UsbDevicePacket :=
  windowPacket 0 4294967280 1 ⟨3⟩

def closedWindow : UsbDevicePacket :=
  windowPacket 1 240 0 .ack

def openWindow : UsbDevicePacket :=
  windowPacket 1 240 1 .ack

def narrowAnswers : HandshakeAnswers where
  synAck := some narrowSynAck

/--
The client has 300 bytes.  The window takes 256 of them, is closed when these
are acknowledged, and takes the others once it is open again.
-/
def narrowWindow : List Handler.Relay.Action :=
  [.clientRead (.ok (List.replicate 300 7)), .sendBytes .sent,
    .recvPacket closedWindow .sent, .recvPacket openWindow .sent,
    .clientRead (.ok []), .sendBytes .sent]

def narrowAcknowledged (packets : List UsbDevicePacket) : Nat :=
  if packets.isEmpty then 4294967280 else 4294967536

theorem keepsEdge_narrowWindow :
    KeepsEdge narrowAcknowledged 1 [closedWindow, openWindow] := by
  intro before packet hpre
  have hcases : before = [] ∧ packet = closedWindow ∨
      before = [closedWindow] ∧ packet = openWindow := by
    rcases before with _ | ⟨first, _ | ⟨second, more⟩⟩
    · exact Or.inl ⟨rfl, (List.cons_prefix_cons.mp hpre).left⟩
    · rcases List.cons_prefix_cons.mp hpre with ⟨rfl, hlast⟩
      exact Or.inr ⟨rfl, (List.cons_prefix_cons.mp hlast).left⟩
    · have hlength := hpre.length_le
      simp at hlength
  rcases hcases with ⟨rfl, rfl⟩ | ⟨rfl, rfl⟩
  · refine ⟨?_, nofun, Nat.le_refl _⟩
    intro tcpHdr htcpHdr
    cases htcpHdr
    rfl
  · refine ⟨?_, nofun, by decide⟩
    intro tcpHdr htcpHdr
    cases htcpHdr
    rfl

def narrowEnd : Handler.Relay :=
  (Machine.run Handler.Relay.step (.init (.ofHandshake 1 62078
    ⟨4294967280, 1, 1, 4294967280⟩)) narrowWindow).getD
      (.init (.opened 1 62078))

set_option maxRecDepth 4000 in
theorem run_narrowWindow :
    Machine.run Handler.Relay.step (.init (.ofHandshake 1 62078
      ⟨4294967280, 1, 1, 4294967280⟩)) narrowWindow = some narrowEnd := rfl

set_option maxRecDepth 4000 in
example : narrowEnd.uploads.map List.length = [256, 44] := by decide

set_option maxRecDepth 4000 in
theorem UsbDeviceConn.flowControlled_narrowWindow :
    DeviceWindow.FlowControlled ⟨narrowAcknowledged, 1⟩ narrowEnd.received
      narrowEnd.sent :=
  (flowControlled 1 62078 narrowAnswers rfl rfl rfl narrowAcknowledged
    rfl).left narrowWindow narrowEnd run_narrowWindow keepsEdge_narrowWindow

end Rusbmux
