import Rusbmux.Conn.Handshake
import Rusbmux.Handler.Connect
import Rusbmux.Provider.ReadExact

/-!
# The cached window

A connection keeps the number of bytes that it can send next to the counters it
is computed from.  A packet from the device changes the counters; the number is
computed again once the ACK is on the writer channel, or the next data packet.
Both users of a connection only look at the number when one of these has
happened since the last packet.
-/

namespace Rusbmux

open Foundation
open Rusbmux.Parser

namespace UsbDeviceConn

variable {conn : UsbDeviceConn}

def Fresh (conn : UsbDeviceConn) : Prop :=
  conn.sendableBytes = calcSendableBytes conn.sentBytes
    conn.deviceLastWindowSize conn.deviceLastReceivedBytes

def HasRoom (conn : UsbDeviceConn) : Prop :=
  conn.sentBytes - conn.deviceLastReceivedBytes <
    conn.deviceLastWindowSize.toUInt32 <<< 8

theorem fresh_updateSendableBytes (conn : UsbDeviceConn) :
    conn.updateSendableBytes.Fresh := rfl

theorem fresh_packetSent (conn : UsbDeviceConn) (packet : UsbDevicePacket) :
    (conn.packetSent packet).Fresh := rfl

theorem fresh_ofHandshake (sourcePort destinationPort : UInt16)
    (handshake : TcpHandshake) :
    (ofHandshake sourcePort destinationPort handshake).Fresh := rfl

theorem calcSendableBytes_eq_zero_iff (conn : UsbDeviceConn) :
    calcSendableBytes conn.sentBytes conn.deviceLastWindowSize
      conn.deviceLastReceivedBytes = 0 <-> ¬ conn.HasRoom := by
  unfold calcSendableBytes HasRoom
  simp only [gt_iff_lt]
  split
  · rename_i hroom
    have hdiff := UInt32.toNat_sub_of_le _ _ (UInt32.le_of_lt hroom)
    have hlt := UInt32.lt_iff_toNat_lt.mp hroom
    have hmax : 0 < maxPacketPayloadSize := by decide
    constructor
    · intro hzero
      omega
    · intro hnot
      exact absurd hroom hnot
  · rename_i hfull
    exact ⟨fun _ => hfull, fun _ => rfl⟩

theorem Fresh.hasRoom_iff (h : conn.Fresh) :
    conn.HasRoom <-> 0 < conn.sendableBytes := by
  rw [h, Nat.pos_iff_ne_zero, ne_eq, calcSendableBytes_eq_zero_iff, not_not]

end UsbDeviceConn

/-!
## The relay
-/

namespace Handler
namespace Relay

variable {s t : Relay}

def PhaseFresh (conn : UsbDeviceConn) : Phase -> Prop
  | .selecting .waiting sendable =>
      sendable = conn.sendableBytes ∧ conn.Fresh
  | .forwarding _ => conn.Fresh
  | .selecting (.acking _ _) _ | .uploading _ | .closing _ | .returned _ => True

def WindowFresh (s : Relay) : Prop :=
  PhaseFresh s.conn s.phase

theorem windowFresh_select (h : s.conn.Fresh) : s.select.WindowFresh :=
  ⟨rfl, h⟩

theorem windowFresh_clientSend (h : s.conn.Fresh) (payload : List UInt8) :
    (s.clientSend payload).WindowFresh := by
  unfold clientSend
  split
  · exact windowFresh_select h
  · exact h

theorem windowFresh_ack (s : Relay) (response tcpAck : UsbDevicePacket)
    (sendable : Nat) (answer : SendAnswer) :
    (s.ack response tcpAck sendable answer).WindowFresh := by
  cases answer with
  | sent =>
      exact windowFresh_clientSend
        (UsbDeviceConn.fresh_updateSendableBytes s.conn) _
  | full => trivial
  | disconnected => trivial

theorem windowFresh_clientPacket (s : Relay) (sendable : Nat) :
    (s.clientPacket sendable).WindowFresh := by
  unfold clientPacket
  simp only
  split
  · trivial
  · trivial

theorem windowFresh_readClient {answer : Except IoError (List UInt8)}
    (hstep : s.readClient answer = some t) : t.WindowFresh := by
  rcases readClient_cases hstep with
    ⟨_, sendable, _, _, hbuffered | hfailed | hread⟩
  · rcases hbuffered with ⟨_, rfl⟩
    exact windowFresh_clientPacket s sendable
  · rcases hfailed with ⟨err, _, rfl⟩
    trivial
  · rcases hread with ⟨chunk, _, _, rfl⟩
    exact windowFresh_clientPacket _ sendable

theorem windowFresh_writeClient {answer : Except IoError Nat}
    (h : s.WindowFresh) (hstep : s.writeClient answer = some t) :
    t.WindowFresh := by
  rcases writeClient_cases hstep with
    ⟨rest, hphase, ⟨err, _, rfl⟩ | ⟨n, _, _, rfl⟩⟩
  · trivial
  · unfold WindowFresh at h
    rw [hphase] at h
    exact windowFresh_clientSend (s := { s with
      written := s.written ++ rest.take n }) h _

theorem windowFresh_sendBytes {answer : SendAnswer} (h : s.WindowFresh)
    (hstep : s.sendBytes answer = some t) : t.WindowFresh := by
  rcases sendBytes_cases hstep with
    ⟨packet, _, ⟨_, rfl⟩ | ⟨_, rfl⟩ | ⟨_, rfl⟩⟩
  · exact windowFresh_select (UsbDeviceConn.fresh_packetSent s.conn packet)
  · exact h
  · trivial

theorem windowFresh_sendRst {answer : SendAnswer} (h : s.WindowFresh)
    (hstep : s.sendRst answer = some t) : t.WindowFresh := by
  rcases sendRst_cases hstep with
    ⟨_, _, ⟨_, rfl⟩ | ⟨_, rfl⟩ | ⟨_, rfl⟩⟩
  · trivial
  · exact h
  · trivial

theorem windowFresh_step {a : Action} (h : s.WindowFresh)
    (hstep : step s a = some t) : t.WindowFresh := by
  cases a with
  | shutdown =>
      rcases shutdown_eq_some hstep with ⟨_, _, _, rfl⟩
      trivial
  | recvPacket packet answer =>
      rcases recvPacket_eq_some hstep with ⟨sendable, _, rfl⟩
      exact windowFresh_ack _ packet _ sendable answer
  | recvDisconnected =>
      rcases recvDisconnected_eq_some hstep with ⟨_, _, rfl⟩
      trivial
  | recvAck answer =>
      rcases recvAck_eq_some hstep with ⟨response, tcpAck, sendable, _, rfl⟩
      exact windowFresh_ack s response tcpAck sendable answer
  | clientRead answer => exact windowFresh_readClient hstep
  | clientWrite answer => exact windowFresh_writeClient h hstep
  | sendBytes answer => exact windowFresh_sendBytes h hstep
  | sendRst answer => exact windowFresh_sendRst h hstep

/--
A round of the loop begins with a fresh number, which is the one it reads the
client with, and refuses to read only when the window has no room.  Within the
round, room that it does not use has come with a packet whose ACK waits.
-/
structure DecidesFresh (s : Relay) : Prop where
  start : forall sendable, s.phase = .selecting .waiting sendable ->
    sendable = s.conn.sendableBytes ∧ s.conn.Fresh
  stops : s.phase = .selecting .waiting 0 -> ¬ s.conn.HasRoom
  unused : forall recv, s.phase = .selecting recv 0 -> s.conn.HasRoom ->
    exists response tcpAck, recv = .acking response tcpAck

theorem WindowFresh.decidesFresh (h : s.WindowFresh) : s.DecidesFresh := by
  have hstart : forall sendable, s.phase = .selecting .waiting sendable ->
      sendable = s.conn.sendableBytes ∧ s.conn.Fresh := by
    intro sendable hphase
    unfold WindowFresh at h
    rw [hphase] at h
    exact h
  have hstops : s.phase = .selecting .waiting 0 -> ¬ s.conn.HasRoom := by
    intro hphase hroom
    rcases hstart 0 hphase with ⟨hzero, hfresh⟩
    exact absurd (hfresh.hasRoom_iff.mp hroom) (by omega)
  refine ⟨hstart, hstops, ?_⟩
  intro recv hphase hroom
  cases recv with
  | waiting => exact absurd hroom (hstops hphase)
  | acking response tcpAck => exact ⟨response, tcpAck, rfl⟩

end Relay
end Handler

/-!
## The stream
-/

namespace Provider
namespace RusbmuxStream

variable {s t : RusbmuxStream}

def WindowFresh (s : RusbmuxStream) : Prop :=
  s.needAck = false -> s.conn.Fresh

theorem windowFresh_sendFlag (h : s.WindowFresh) (tcpFlag : TcpFlags)
    (answer : SendAnswer) :
    (s.pollSendFlag tcpFlag answer).fst.WindowFresh := by
  cases answer with
  | sent => exact fun _ => UsbDeviceConn.fresh_updateSendableBytes s.conn
  | full => exact h
  | disconnected => exact h

theorem windowFresh_recv (h : s.WindowFresh) (answer : RecvAnswer) :
    (s.pollRecv answer).fst.WindowFresh := by
  cases answer with
  | item packet => exact fun hdue => nomatch hdue
  | disconnected => exact h
  | pending => exact h

theorem windowFresh_sendPending (h : s.WindowFresh) (packet : UsbDevicePacket)
    (answer : SendAnswer) :
    ({ s with writePacket := none }.pollSendPending packet
      answer).fst.WindowFresh := by
  cases answer with
  | sent => exact fun _ => UsbDeviceConn.fresh_packetSent s.conn packet
  | full => exact h
  | disconnected => exact h

theorem callsKeep_windowFresh : CallsKeep WindowFresh where
  ack := fun _ answer h => windowFresh_sendFlag h .ack answer
  recv := fun _ answer h => windowFresh_recv h answer
  handOut := fun _ _ h => h
  pending := fun _ packet answer _ h => windowFresh_sendPending h packet answer
  build := fun _ _ h => h
  rst := fun _ answer h => windowFresh_sendFlag h .rst answer
  dropped := fun _ h => h

/--
The stream in which a round of `poll_write` comes to its second half, where it
looks at the parked packet and at the window, if it comes there.
-/
def afterAck (s : RusbmuxStream) (io : ChannelAnswers) :
    Option RusbmuxStream :=
  if s.needAck then
    match s.pollSendFlag .ack io.flag with
    | (t, .ready (.ok ())) => some t
    | _ => none
  else
    some s

theorem pollWriteRound_of_afterAck {io : ChannelAnswers}
    (h : s.afterAck io = some t) (buf : List UInt8) :
    pollWriteRound buf s io = t.pollWritePacket buf io := by
  unfold afterAck at h
  unfold pollWriteRound
  split at h
  · rename_i hdue
    rw [if_pos hdue]
    cases hflag : io.flag with
    | sent =>
        rw [hflag] at h
        cases h
        rfl
    | full =>
        rw [hflag] at h
        cases h
    | disconnected =>
        rw [hflag] at h
        cases h
  · rename_i hnone
    cases h
    rw [if_neg hnone]

theorem fresh_afterAck {io : ChannelAnswers} (h : s.WindowFresh)
    (hafter : s.afterAck io = some t) : t.conn.Fresh := by
  unfold afterAck at hafter
  split at hafter
  · cases hflag : io.flag with
    | sent =>
        rw [hflag] at hafter
        cases hafter
        exact UsbDeviceConn.fresh_updateSendableBytes s.conn
    | full =>
        rw [hflag] at hafter
        cases hafter
    | disconnected =>
        rw [hflag] at hafter
        cases hafter
  · rename_i hnone
    cases hafter
    exact h (Bool.not_eq_true _ ▸ hnone)

end RusbmuxStream

namespace StreamUse

open RusbmuxStream

variable {u : StreamUse}

/--
The number is fresh whenever no ACK is due, also between the rounds of a call,
and a round of a write that looks at the window finds it fresh, so that it turns
to reading only when the window has no room.
-/
structure DecidesFresh (u : StreamUse) : Prop where
  atRest : u.stream.needAck = false -> u.stream.conn.Fresh
  inRead : forall room rounds s buf,
    pollRounds pollReadRound (u.stream, { remaining := room }) rounds =
      (s, buf) -> s.needAck = false -> s.conn.Fresh
  inWrite : forall buf rounds s,
    pollRounds (pollWriteRound buf) u.stream rounds = s ->
      s.needAck = false -> s.conn.Fresh
  stops : forall buf rounds s io t,
    pollRounds (pollWriteRound buf) u.stream rounds = s ->
      s.afterAck io = some t ->
        t.conn.Fresh ∧ (t.conn.sendableBytes = 0 -> ¬ t.conn.HasRoom)

theorem decidesFresh (h : u.stream.WindowFresh) : u.DecidesFresh where
  atRest := h
  inRead := by
    intro room rounds s buf hrounds
    have hkeeps := pollRounds_keeps (I := fun r => WindowFresh r.fst)
      callsKeep_windowFresh.readRound (s := (u.stream, { remaining := room })) h
      rounds
    rw [hrounds] at hkeeps
    exact hkeeps
  inWrite := by
    intro buf rounds s hrounds
    cases hrounds
    exact pollRounds_keeps (callsKeep_windowFresh.writeRound buf) h rounds
  stops := by
    intro buf rounds s io t hrounds hafter
    cases hrounds
    have hfresh := fresh_afterAck
      (pollRounds_keeps (callsKeep_windowFresh.writeRound buf) h rounds) hafter
    refine ⟨hfresh, ?_⟩
    intro hzero hroom
    exact absurd (hfresh.hasRoom_iff.mp hroom) (by omega)

end StreamUse
end Provider

/--
After any handshake, in every run of the relay and in every run of the stream,
the cached number of bytes that can be sent is fresh where it decides something.
-/
theorem UsbDeviceConn.decidesFresh_throughout
    (sourcePort destinationPort : UInt16) (handshake : TcpHandshake) :
    (forall actions,
      Machine.Throughout Handler.Relay.step Handler.Relay.DecidesFresh
        (.init (.ofHandshake sourcePort destinationPort handshake))
        actions) ∧
      forall actions,
        Machine.Throughout Provider.StreamUse.step
          Provider.StreamUse.DecidesFresh
          (.init (.ofHandshake sourcePort destinationPort handshake))
          actions := by
  have hfresh := fresh_ofHandshake sourcePort destinationPort handshake
  constructor
  · intro actions pre s _ hrun
    have hwindow := Machine.run_invariant (I := Handler.Relay.WindowFresh)
      (fun _ _ _ => Handler.Relay.windowFresh_step)
      (Handler.Relay.windowFresh_select
        (s := .init (.ofHandshake sourcePort destinationPort handshake))
        hfresh) hrun
    exact hwindow.decidesFresh
  · intro actions pre u _ hrun
    have hwindow := Machine.run_invariant
      (I := fun u : Provider.StreamUse => u.stream.WindowFresh)
      (fun _ _ _ => Provider.StreamUse.step_keeps
        Provider.RusbmuxStream.callsKeep_windowFresh)
      (fun _ => hfresh) hrun
    exact Provider.StreamUse.decidesFresh hwindow

end Rusbmux
