import Rusbmux.Handler.Connect

/-!
# From the device to the client

Every packet taken off the receive channel is written to the client or still in
the hands of the loop, in order.  The one way to lose a packet is the await
point inside `recv`: while it waits for room to send the ACK it holds the packet
that it is going to return, and a round of `select!` that another branch
completes drops it.
-/

namespace Rusbmux
namespace Handler

open Foundation
open Rusbmux.Parser

def payloads (packets : List UsbDevicePacket) : List UInt8 :=
  packets.flatMap fun packet => packet.payload.encode

def Phase.inHand : Phase -> List UInt8
  | .selecting (.acking response _) _ => response.payload.encode
  | .forwarding rest => rest
  | .selecting .waiting _ | .uploading _ | .closing _ | .returned _ => []

def Phase.isReturned : Phase -> Bool
  | .returned _ => true
  | .selecting _ _ | .forwarding _ | .uploading _ | .closing _ => false

namespace Relay

def Balanced (s : Relay) : Prop :=
  s.written ++ s.phase.inHand = payloads s.received

/--
As long as no send or write has failed, the bytes written to the client and
those still in hand are the payloads of the packets taken off the channel.
-/
def Delivers (s : Relay) : Prop :=
  s.failed = false -> s.Balanced

def HoldsNothing (s : Relay) : Prop :=
  forall response tcpAck sendable,
    s.phase = .selecting (.acking response tcpAck) sendable ->
      response.payload.encode = []

/--
No other branch completes while `recv` waits to send the ACK of a packet with a
payload.
-/
def KeepsResponse (s : Relay) : Action -> Prop
  | .shutdown | .clientRead _ => s.HoldsNothing
  | .recvPacket _ _ | .recvDisconnected | .recvAck _ | .clientWrite _
  | .sendBytes _ | .sendRst _ => True

theorem Delivers.written_eq {s : Relay} (h : s.Delivers)
    (hfailed : s.failed = false) (hhand : s.phase.inHand = []) :
    s.written = payloads s.received := by
  have hbalanced := h hfailed
  unfold Balanced at hbalanced
  rw [hhand, List.append_nil] at hbalanced
  exact hbalanced

structure Invariant (s : Relay) : Prop where
  delivers : s.Delivers
  failed_returned : s.failed = true -> s.phase.isReturned = true

namespace Invariant

variable {s t : Relay}

theorem init (conn : UsbDeviceConn) : Invariant (Relay.init conn) where
  delivers := fun _ => rfl
  failed_returned := fun h => nomatch h

theorem of_balanced (hfailed : t.failed = false) (hbalanced : t.Balanced) :
    Invariant t where
  delivers := fun _ => hbalanced
  failed_returned := by
    intro h
    rw [hfailed] at h
    cases h

theorem fail (s : Relay) (err : RusbmuxError) : Invariant (s.fail err) where
  delivers := fun h => nomatch h
  failed_returned := fun _ => rfl

theorem at_phase (h : Invariant s) {phase : Phase} (hphase : s.phase = phase)
    (hactive : phase.isReturned = false) :
    s.failed = false ∧ s.written ++ phase.inHand = payloads s.received := by
  have hfailed : s.failed = false := by
    cases hfailed : s.failed with
    | false => rfl
    | true =>
        have hreturned := h.failed_returned hfailed
        rw [hphase, hactive] at hreturned
        cases hreturned
  have hbalanced := h.delivers hfailed
  unfold Balanced at hbalanced
  rw [hphase] at hbalanced
  exact ⟨hfailed, hbalanced⟩

end Invariant

/-!
## The branches
-/

theorem invariant_clientSend {s : Relay} {payload : List UInt8}
    (hfailed : s.failed = false)
    (hbalance : s.written ++ payload = payloads s.received) :
    Invariant (s.clientSend payload) := by
  unfold clientSend
  cases payload with
  | nil => exact Invariant.of_balanced hfailed hbalance
  | cons b rest => exact Invariant.of_balanced hfailed hbalance

theorem invariant_ack {s : Relay} {response tcpAck : UsbDevicePacket}
    {sendable : Nat} (answer : SendAnswer) (hfailed : s.failed = false)
    (hbalance : s.written ++ response.payload.encode = payloads s.received) :
    Invariant (s.ack response tcpAck sendable answer) := by
  cases answer with
  | sent => exact invariant_clientSend hfailed hbalance
  | full => exact Invariant.of_balanced hfailed hbalance
  | disconnected => exact Invariant.fail s _

theorem invariant_recvPacket {s t : Relay} {packet : UsbDevicePacket}
    {answer : SendAnswer} (h : Invariant s)
    (hstep : s.recvPacket packet answer = some t) : Invariant t := by
  rcases recvPacket_eq_some hstep with ⟨sendable, hphase, rfl⟩
  rcases h.at_phase hphase rfl with ⟨hfailed, hbalance⟩
  refine invariant_ack answer hfailed ?_
  change s.written ++ [] = _ at hbalance
  show s.written ++ _ = payloads (s.received ++ [packet])
  rw [payloads, List.flatMap_append, List.flatMap_singleton, ← payloads,
    ← hbalance, List.append_nil]

theorem invariant_recvAck {s t : Relay} {answer : SendAnswer}
    (h : Invariant s) (hstep : s.recvAck answer = some t) : Invariant t := by
  rcases recvAck_eq_some hstep with
    ⟨response, tcpAck, sendable, hphase, rfl⟩
  rcases h.at_phase hphase rfl with ⟨hfailed, hbalance⟩
  exact invariant_ack answer hfailed hbalance

theorem invariant_recvDisconnected {s t : Relay} (h : Invariant s)
    (hstep : s.recvDisconnected = some t) : Invariant t := by
  rcases recvDisconnected_eq_some hstep with ⟨sendable, hphase, rfl⟩
  rcases h.at_phase hphase rfl with ⟨hfailed, hbalance⟩
  exact Invariant.of_balanced hfailed hbalance

theorem invariant_writeClient {s t : Relay} {answer : Except IoError Nat}
    (h : Invariant s) (hstep : s.writeClient answer = some t) :
    Invariant t := by
  rcases writeClient_cases hstep with
    ⟨rest, hphase, ⟨err, _, rfl⟩ | ⟨n, _, _, rfl⟩⟩
  · exact Invariant.fail s _
  · rcases h.at_phase hphase rfl with ⟨hfailed, hbalance⟩
    apply invariant_clientSend
    · exact hfailed
    · show s.written ++ rest.take n ++ rest.drop n = payloads s.received
      rw [List.append_assoc, List.take_append_drop]
      exact hbalance

theorem invariant_sendBytes {s t : Relay} {answer : SendAnswer}
    (h : Invariant s) (hstep : s.sendBytes answer = some t) : Invariant t := by
  rcases sendBytes_cases hstep with
    ⟨packet, hphase, ⟨_, rfl⟩ | ⟨_, rfl⟩ | ⟨_, rfl⟩⟩
  · rcases h.at_phase hphase rfl with ⟨hfailed, hbalance⟩
    exact Invariant.of_balanced hfailed hbalance
  · exact h
  · exact Invariant.fail s _

theorem invariant_sendRst {s t : Relay} {answer : SendAnswer}
    (h : Invariant s) (hstep : s.sendRst answer = some t) : Invariant t := by
  rcases sendRst_cases hstep with
    ⟨rstPacket, hphase, ⟨_, rfl⟩ | ⟨_, rfl⟩ | ⟨_, rfl⟩⟩
  · rcases h.at_phase hphase rfl with ⟨hfailed, hbalance⟩
    exact Invariant.of_balanced hfailed hbalance
  · exact h
  · exact Invariant.fail s _

/-!
## The branches that drop `recv`
-/

structure Drops (s t : Relay) : Prop where
  selecting : exists recv sendable, s.phase = .selecting recv sendable
  inHand : t.phase.inHand = []
  written : t.written = s.written
  received : t.received = s.received
  failed : t.failed = s.failed

theorem Drops.of_clientPacket {s u : Relay} {recv : RecvFuture}
    {sendable : Nat} (hphase : s.phase = .selecting recv sendable)
    (hwritten : u.written = s.written) (hreceived : u.received = s.received)
    (hfailed : u.failed = s.failed) :
    Drops s (u.clientPacket sendable) := by
  unfold clientPacket
  simp only
  split
  · exact ⟨⟨recv, sendable, hphase⟩, rfl, hwritten, hreceived, hfailed⟩
  · exact ⟨⟨recv, sendable, hphase⟩, rfl, hwritten, hreceived, hfailed⟩

theorem shutdown_drops {s t : Relay} (hstep : s.shutdown = some t) :
    Drops s t := by
  rcases shutdown_eq_some hstep with ⟨recv, sendable, hphase, rfl⟩
  exact ⟨⟨recv, sendable, hphase⟩, rfl, rfl, rfl, rfl⟩

theorem readClient_drops {s t : Relay}
    {answer : Except IoError (List UInt8)}
    (hstep : s.readClient answer = some t) : Drops s t := by
  rcases readClient_cases hstep with
    ⟨recv, sendable, hphase, _, hbuffered | hfailed | hread⟩
  · rcases hbuffered with ⟨_, rfl⟩
    exact Drops.of_clientPacket hphase rfl rfl rfl
  · rcases hfailed with ⟨err, _, rfl⟩
    exact ⟨⟨recv, sendable, hphase⟩, rfl, rfl, rfl, rfl⟩
  · rcases hread with ⟨chunk, _, _, rfl⟩
    exact Drops.of_clientPacket hphase rfl rfl rfl

/--
A round that ends without `recv` keeps the balance exactly if `recv` held
nothing.
-/
theorem Drops.delivers_iff_holdsNothing {s t : Relay} (h : Invariant s)
    (hdrops : Drops s t) : t.Delivers <-> s.HoldsNothing := by
  rcases hdrops.selecting with ⟨recv, sendable, hphase⟩
  rcases h.at_phase hphase rfl with ⟨hfailed, hbalance⟩
  unfold Delivers Balanced
  rw [hdrops.failed, hdrops.inHand, hdrops.written, hdrops.received,
    List.append_nil, ← hbalance]
  constructor
  · intro hdelivers response tcpAck sendable' hacking
    cases hphase.symm.trans hacking
    exact (List.self_eq_append_right.mp (hdelivers hfailed))
  · intro hholds _
    cases recv with
    | waiting => exact (List.append_nil _).symm
    | acking response tcpAck =>
        show s.written = s.written ++ response.payload.encode
        rw [hholds response tcpAck sendable hphase, List.append_nil]

theorem Drops.invariant {s t : Relay} (h : Invariant s) (hdrops : Drops s t)
    (hholds : s.HoldsNothing) : Invariant t where
  delivers := (hdrops.delivers_iff_holdsNothing h).mpr hholds
  failed_returned := by
    intro hfailed
    rcases hdrops.selecting with ⟨recv, sendable, hphase⟩
    rw [hdrops.failed, (h.at_phase hphase rfl).left] at hfailed
    cases hfailed

/-!
## Runs
-/

theorem invariant_step {s t : Relay} {a : Action} (h : Invariant s)
    (hstep : step s a = some t) (hguard : s.KeepsResponse a) : Invariant t := by
  cases a with
  | shutdown => exact (shutdown_drops hstep).invariant h hguard
  | recvPacket packet answer => exact invariant_recvPacket h hstep
  | recvDisconnected => exact invariant_recvDisconnected h hstep
  | recvAck answer => exact invariant_recvAck h hstep
  | clientRead answer => exact (readClient_drops hstep).invariant h hguard
  | clientWrite answer => exact invariant_writeClient h hstep
  | sendBytes answer => exact invariant_sendBytes h hstep
  | sendRst answer => exact invariant_sendRst h hstep

theorem not_delivers_of_dropped {s t : Relay} {a : Action} (h : Invariant s)
    (hstep : step s a = some t) (hguard : ¬ s.KeepsResponse a) :
    ¬ t.Delivers := by
  intro hdelivers
  apply hguard
  cases a with
  | shutdown =>
      have hdrops := shutdown_drops hstep
      exact (hdrops.delivers_iff_holdsNothing h).mp hdelivers
  | clientRead answer =>
      have hdrops := readClient_drops hstep
      exact (hdrops.delivers_iff_holdsNothing h).mp hdelivers
  | recvPacket packet answer => exact trivial
  | recvDisconnected => exact trivial
  | recvAck answer => exact trivial
  | clientWrite answer => exact trivial
  | sendBytes answer => exact trivial
  | sendRst answer => exact trivial

/--
The client gets every packet of a run, exactly if no other branch completes
while `recv` waits to send the ACK of a packet with a payload.
-/
theorem delivers_iff (conn : UsbDeviceConn) (actions : List Action) :
    Machine.Throughout step Delivers (Relay.init conn) actions <->
      Machine.Guarded step KeepsResponse (Relay.init conn) actions :=
  Machine.throughout_iff_guarded (J := Invariant) (fun _ h => h.delivers)
    (fun _ _ _ => invariant_step) (fun _ _ _ => not_delivers_of_dropped)
    (Invariant.init conn) actions

def deviceByte : UsbDevicePacket :=
  (UsbDeviceConn.opened 1 62078).buildBytes [0x2a]

/--
The device sends a byte while the channel to the writer loop is full, and the
client sends one before there is room for the ACK.
-/
def crossedBytes : List Action :=
  [.recvPacket deviceByte .full, .clientRead (.ok [0x07]), .sendBytes .sent]

theorem crossedBytes_written :
    (Machine.run step (Relay.init (.opened 62078 1)) crossedBytes).map
      (fun s => (s.failed, s.written, payloads s.received, s.phase.inHand)) =
        some (false, [], [0x2a], []) := rfl

/-- The byte of the device never reaches the client. -/
theorem not_delivers_crossed :
    ¬ forall (conn : UsbDeviceConn) (actions : List Action) (s : Relay),
      Machine.run step (Relay.init conn) actions = some s -> s.Delivers := by
  intro h
  rcases Option.map_eq_some_iff.mp crossedBytes_written with ⟨s, hrun, hs⟩
  have hdelivers := h (.opened 62078 1) crossedBytes s hrun
  simp only [Prod.mk.injEq] at hs
  rcases hs with ⟨hfailed, hwritten, hreceived, hhand⟩
  have heq := hdelivers.written_eq hfailed hhand
  rw [hwritten, hreceived] at heq
  cases heq

end Relay

end Handler
end Rusbmux
