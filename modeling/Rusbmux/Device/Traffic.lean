import Rusbmux.Conn.Handshake
import Rusbmux.Device.Demultiplexing

/-!
# The traffic of the connections

Behind each registration is a connection to a port of the device.  Its handshake
takes one packet, and `recv` the packets after it.  Neither they nor the router
nor the handling of an RST look at the source port of a packet: a packet that is
left over from an earlier connection is taken for one of the connection that
has its host port now.
-/

namespace Rusbmux
namespace Device

open Foundation
open Rusbmux.Parser

inductive ConnPhase where
  | performing
  | connected
  | gone
deriving DecidableEq, Repr

structure TrafficConn where
  sourcePort : UInt16
  destinationPort : UInt16
  phase : ConnPhase := .performing
deriving DecidableEq, Repr

structure Traffic where
  demux : Demux := {}
  conns : List TrafficConn := []
  /--
  The packets that were accepted as a SYN-ACK, returned by `recv`, or have
  removed a live registration, with the number of the connection.
  -/
  affected : List (Nat × UsbDevicePacket) := []

def isSynAck (packet : UsbDevicePacket) : Bool :=
  packet.tcpHdr.any fun t => t.syn && t.ack

namespace PacketChannel

def next (c : PacketChannel) : Option UsbDevicePacket :=
  c.sent[c.taken]?

end PacketChannel

namespace TrafficConn

def enter (conn : TrafficConn) (phase : ConnPhase) : TrafficConn :=
  { conn with phase := phase }

def Owns (conn : TrafficConn) (packet : UsbDevicePacket) : Prop :=
  exists hdr, packet.tcpHdr = some hdr ∧
    hdr.sourcePort = conn.destinationPort

end TrafficConn

namespace Traffic

inductive Action where
  | connect (destinationPort : UInt16)
  | handshake (tx : Nat) (acked : Bool)
  /-- `recv` takes a packet, and may get its ACK sent. -/
  | recv (tx : Nat) (acked : Bool)
  | drop (tx : Nat)
  | unregister (port : UInt16)
  | attachConn (sourcePort : UInt16) (conn : Nat)
  | clear
  | readPacket (packet : UsbDevicePacket)
  | finishRoute
  | readFailed

def waiting (s : Traffic) (tx : Nat) : Option (TrafficConn × UsbDevicePacket) :=
  match s.conns[tx]?, s.demux.channels[tx]? with
  | some conn, some c => c.next.map fun packet => (conn, packet)
  | _, _ => none

def updateConn (s : Traffic) (tx : Nat) (phase : ConnPhase)
    (f : PacketChannel -> PacketChannel) : Traffic :=
  { s with
    conns := s.conns.modify tx fun conn => conn.enter phase
    demux := { s.demux with channels := s.demux.channels.modify tx f } }

def note (s : Traffic) (tx : Nat) (packet : UsbDevicePacket) : Traffic :=
  { s with affected := s.affected ++ [(tx, packet)] }

def connect (s : Traffic) (destinationPort : UInt16) : Traffic :=
  let demux := s.demux.register
  match demux.channels[s.demux.channels.length]? with
  | some c =>
      { s with
        demux := demux
        conns := s.conns ++
          [{ sourcePort := c.port, destinationPort := destinationPort }] }
  | none => { s with demux := demux }

def handshake (s : Traffic) (tx : Nat) (acked : Bool) : Option Traffic :=
  match s.waiting tx with
  | some (conn, packet) =>
      if conn.phase = .performing then
        let s := if isSynAck packet then s.note tx packet else s
        match (TcpHandshake.perform conn.sourcePort conn.destinationPort
          { synAck := some packet, ack := acked }).result with
        | .ok _ => some (s.updateConn tx .connected fun c => c.take)
        | .error _ =>
            some (s.updateConn tx .gone fun c => c.take.dropReceiver)
      else none
  | none => none

def recv (s : Traffic) (tx : Nat) (acked : Bool) : Option Traffic :=
  match s.waiting tx with
  | some (conn, packet) =>
      if conn.phase = .connected then
        let s := if acked then s.note tx packet else s
        some (s.updateConn tx .connected fun c => c.take)
      else none
  | none => none

def reset (s : Traffic) (packet : UsbDevicePacket) :
    List (Nat × UsbDevicePacket) :=
  match packet.tcpHdr with
  | some t =>
      match s.demux.router.get t.destinationPort with
      | some entry =>
          if t.rst && s.demux.alive entry.tx then [(entry.tx, packet)] else []
      | none => []
  | none => []

def readPacket (s : Traffic) (packet : UsbDevicePacket) : Option Traffic :=
  (s.demux.readPacket packet).map fun demux =>
    { s with demux := demux, affected := s.affected ++ s.reset packet }

def ofDemux (s : Traffic) (a : Demux.Action) : Option Traffic :=
  (Demux.step s.demux a).map fun demux => { s with demux := demux }

def step : Machine Traffic Action := fun s a =>
  match a with
  | .connect destinationPort => some (s.connect destinationPort)
  | .handshake tx acked => s.handshake tx acked
  | .recv tx acked => s.recv tx acked
  | .drop tx => some (s.updateConn tx .gone fun c => c.dropReceiver)
  | .unregister port => s.ofDemux (.unregister port)
  | .attachConn sourcePort conn => s.ofDemux (.attachConn sourcePort conn)
  | .clear => s.ofDemux .clear
  | .readPacket packet => s.readPacket packet
  | .finishRoute => s.ofDemux .finishRoute
  | .readFailed => s.ofDemux .readFailed

/-- Whatever a connection was affected by is from the port it is to. -/
def NoStale (s : Traffic) : Prop :=
  forall tx packet, (tx, packet) ∈ s.affected ->
    exists conn, s.conns[tx]? = some conn ∧ conn.Owns packet

def IsReceive : Action -> Prop
  | .handshake _ _ => True
  | .recv _ _ => True
  | _ => False

/--
A packet that is read for a live registration is from the port that the
connection is to, if it is an RST, or if the first packet for the connection,
which this one may be, is a SYN-ACK.
-/
def Genuine (s : Traffic) (a : Action) : Prop :=
  match a with
  | .readPacket packet =>
      forall hdr entry conn c, packet.tcpHdr = some hdr ->
        s.demux.router.get hdr.destinationPort = some entry ->
        s.conns[entry.tx]? = some conn ->
        s.demux.channels[entry.tx]? = some c -> c.receiverAlive = true ->
        (hdr.rst = true ∨ (c.sent ++ [packet]).head?.any isSynAck = true) ->
          hdr.sourcePort = conn.destinationPort
  | _ => True

end Traffic

/-!
## What a packet does to a connection
-/

theorem checkSynAck_eq_ok_iff {packet : UsbDevicePacket} :
    (exists hdr, TcpHandshake.checkSynAck packet = .ok hdr) <->
      isSynAck packet = true := by
  unfold TcpHandshake.checkSynAck isSynAck
  cases packet.tcpHdr with
  | none => simp
  | some hdr =>
      cases hflags : hdr.syn && hdr.ack with
      | true => simp [hflags]
      | false => simp [hflags]

theorem perform_eq_ok_iff {sourcePort destinationPort : UInt16}
    {packet : UsbDevicePacket} {acked : Bool} :
    (exists handshake, (TcpHandshake.perform sourcePort destinationPort
        { synAck := some packet, ack := acked }).result = .ok handshake) <->
      (isSynAck packet && acked) = true := by
  rw [Bool.and_eq_true, ← checkSynAck_eq_ok_iff]
  constructor
  · intro h
    rcases h with ⟨handshake, hperform⟩
    rcases Transcript.result_bind_eq_ok hperform with ⟨_, _, hsyn⟩
    rcases Transcript.result_bind_eq_ok hsyn with ⟨answer, hrecv, hreceived⟩
    cases hrecv
    rcases Transcript.result_bind_eq_ok hreceived with ⟨hdr, hcheck, hack⟩
    rcases Transcript.result_bind_eq_ok hack with ⟨_, hsent, _⟩
    refine ⟨⟨hdr, hcheck⟩, ?_⟩
    cases acked with
    | true => rfl
    | false => cases hsent
  · intro h
    rcases h with ⟨⟨hdr, hcheck⟩, rfl⟩
    unfold TcpHandshake.perform
    rw [Transcript.result_bind_of_ok _ rfl, Transcript.result_bind_of_ok _ rfl,
      Transcript.result_bind_of_ok _ hcheck, Transcript.result_bind_of_ok _ rfl]
    exact ⟨_, rfl⟩

namespace Traffic

variable {s t : Traffic}

theorem waiting_eq_some {tx : Nat} {conn : TrafficConn}
    {packet : UsbDevicePacket} (h : s.waiting tx = some (conn, packet)) :
    s.conns[tx]? = some conn ∧ exists c, s.demux.channels[tx]? = some c ∧
      c.next = some packet := by
  unfold waiting at h
  split at h
  · rename_i other c hconn hc
    rcases Option.map_eq_some_iff.mp h with ⟨next, hnext, hsame⟩
    cases hsame
    exact ⟨hconn, c, hc, hnext⟩
  · cases h

theorem waiting_of_next {tx : Nat} {conn : TrafficConn} {c : PacketChannel}
    {packet : UsbDevicePacket} (hconn : s.conns[tx]? = some conn)
    (hc : s.demux.channels[tx]? = some c) (hnext : c.next = some packet) :
    s.waiting tx = some (conn, packet) := by
  unfold waiting
  rw [hconn, hc]
  show c.next.map _ = _
  rw [hnext]
  rfl

theorem handshake_of_waiting {tx : Nat} {conn : TrafficConn}
    {packet : UsbDevicePacket} (acked : Bool)
    (hwaiting : s.waiting tx = some (conn, packet))
    (hphase : conn.phase = .performing) :
    s.handshake tx acked =
      some (if isSynAck packet && acked then
          (s.note tx packet).updateConn tx .connected fun c => c.take
        else
          (if isSynAck packet then s.note tx packet else s).updateConn tx .gone
            fun c => c.take.dropReceiver) := by
  unfold handshake
  rw [hwaiting]
  simp only [hphase, if_true]
  cases hresult : (TcpHandshake.perform conn.sourcePort conn.destinationPort
      { synAck := some packet, ack := acked }).result with
  | ok handshake =>
      have hboth := perform_eq_ok_iff.mp ⟨handshake, hresult⟩
      rw [if_pos hboth, if_pos (Bool.and_eq_true_iff.mp hboth).left]
  | error err =>
      have hnot : ¬ (isSynAck packet && acked) = true := by
        intro hboth
        rcases perform_eq_ok_iff.mpr hboth with ⟨handshake, hok⟩
        cases hresult.symm.trans hok
      rw [if_neg hnot]

theorem handshake_cases {tx : Nat} {acked : Bool}
    (hstep : s.handshake tx acked = some t) :
    exists conn packet, s.waiting tx = some (conn, packet) ∧
      conn.phase = .performing ∧
      t = if isSynAck packet && acked then
          (s.note tx packet).updateConn tx .connected fun c => c.take
        else
          (if isSynAck packet then s.note tx packet else s).updateConn tx .gone
            fun c => c.take.dropReceiver := by
  cases hwaiting : s.waiting tx with
  | none =>
      unfold handshake at hstep
      rw [hwaiting] at hstep
      cases hstep
  | some both =>
      rcases both with ⟨conn, packet⟩
      have hphase : conn.phase = .performing := by
        unfold handshake at hstep
        rw [hwaiting] at hstep
        exact (Machine.of_enabled_if hstep).left
      rw [handshake_of_waiting acked hwaiting hphase] at hstep
      exact ⟨conn, packet, rfl, hphase, (Option.some.inj hstep).symm⟩

theorem recv_cases {tx : Nat} {acked : Bool} (hstep : s.recv tx acked = some t) :
    exists conn packet, s.waiting tx = some (conn, packet) ∧
      conn.phase = .connected ∧
      t = (if acked then s.note tx packet else s).updateConn tx .connected
        fun c => c.take := by
  cases hwaiting : s.waiting tx with
  | none =>
      unfold recv at hstep
      rw [hwaiting] at hstep
      cases hstep
  | some both =>
      rcases both with ⟨conn, packet⟩
      unfold recv at hstep
      rw [hwaiting] at hstep
      rcases Machine.of_enabled_if hstep with ⟨hphase, hnext⟩
      exact ⟨conn, packet, rfl, hphase, (Option.some.inj hnext).symm⟩

theorem connect_cases (s : Traffic) (destinationPort : UInt16) :
    (s.connect destinationPort = { s with demux := s.demux.register } ∧
        s.demux.register.channels = s.demux.channels) ∨
      exists port, s.connect destinationPort =
          { s with
            demux := s.demux.register
            conns := s.conns ++ [{ sourcePort := port
                                   destinationPort := destinationPort }] } ∧
        s.demux.register.channels = s.demux.channels ++ [{ port := port }] := by
  rcases Demux.register_cases s.demux with ⟨_, hchannels⟩ |
    ⟨port, _, _, _, hchannels⟩
  · have hnone : s.demux.register.channels[s.demux.channels.length]? =
        none := by
      rw [hchannels, List.getElem?_eq_none (Nat.le_refl _)]
    refine Or.inl ⟨?_, hchannels⟩
    unfold connect
    simp only [hnone]
  · have hnew : s.demux.register.channels[s.demux.channels.length]? =
        some { port := port } := by
      rw [hchannels, List.getElem?_concat_length]
    refine Or.inr ⟨port, ?_, hchannels⟩
    unfold connect
    simp only [hnew]

/-!
## The connections and their channels
-/

structure Aligned (Q : TrafficConn -> PacketChannel -> Prop) (s : Traffic) :
    Prop where
  length_eq : s.conns.length = s.demux.channels.length
  each : forall (tx : Nat) conn c, s.conns[tx]? = some conn ->
    s.demux.channels[tx]? = some c -> Q conn c

variable {Q : TrafficConn -> PacketChannel -> Prop}

theorem Aligned.of_same (h : s.Aligned Q) (hconns : t.conns = s.conns)
    (hchannels : t.demux.channels = s.demux.channels) : t.Aligned Q where
  length_eq := by
    rw [hconns, hchannels]
    exact h.length_eq
  each := by
    rw [hconns, hchannels]
    exact h.each

theorem Aligned.modify (h : s.Aligned Q) (tx : Nat)
    {f : TrafficConn -> TrafficConn} {g : PacketChannel -> PacketChannel}
    (hconns : t.conns = s.conns.modify tx f)
    (hchannels : t.demux.channels = s.demux.channels.modify tx g)
    (hpair : forall conn c, s.conns[tx]? = some conn ->
      s.demux.channels[tx]? = some c -> Q conn c -> Q (f conn) (g c)) :
    t.Aligned Q where
  length_eq := by
    rw [hconns, hchannels, List.length_modify, List.length_modify]
    exact h.length_eq
  each := by
    intro ty conn c hconn hc
    rw [hconns, List.getElem?_modify] at hconn
    rw [hchannels, List.getElem?_modify] at hc
    rcases Option.map_eq_some_iff.mp hconn with ⟨oldConn, holdConn, rfl⟩
    rcases Option.map_eq_some_iff.mp hc with ⟨old, hold, rfl⟩
    have hQ : Q oldConn old := h.each ty oldConn old holdConn hold
    by_cases hsame : tx = ty
    · subst hsame
      rw [if_pos rfl, if_pos rfl]
      exact hpair oldConn old holdConn hold hQ
    · rw [if_neg hsame, if_neg hsame]
      exact hQ

theorem Aligned.modifyChannel (h : s.Aligned Q) (tx : Nat)
    {g : PacketChannel -> PacketChannel} (hconns : t.conns = s.conns)
    (hchannels : t.demux.channels = s.demux.channels.modify tx g)
    (hpair : forall conn c, s.conns[tx]? = some conn ->
      s.demux.channels[tx]? = some c -> Q conn c -> Q conn (g c)) :
    t.Aligned Q := by
  apply h.modify tx _ hchannels hpair
  rw [hconns]
  exact (List.modify_id tx s.conns).symm

theorem Aligned.connect (h : s.Aligned Q) (destinationPort : UInt16)
    (hnew : forall port, Q { sourcePort := port
                             destinationPort := destinationPort }
      { port := port }) : (s.connect destinationPort).Aligned Q := by
  rcases connect_cases s destinationPort with ⟨heq, hchannels⟩ |
    ⟨port, heq, hchannels⟩
  · rw [heq]
    exact h.of_same rfl hchannels
  · rw [heq]
    constructor
    · show (s.conns ++ [_]).length = s.demux.register.channels.length
      rw [hchannels, List.length_append, List.length_append, h.length_eq]
      rfl
    · intro tx conn c hconn hc
      change (s.conns ++ [_])[tx]? = some conn at hconn
      change s.demux.register.channels[tx]? = some c at hc
      rw [hchannels] at hc
      by_cases hlt : tx < s.conns.length
      · rw [List.getElem?_append_left hlt] at hconn
        rw [List.getElem?_append_left (h.length_eq ▸ hlt)] at hc
        exact h.each tx conn c hconn hc
      · rw [List.getElem?_append_right (Nat.not_lt.mp hlt)] at hconn
        rw [List.getElem?_append_right (h.length_eq ▸ Nat.not_lt.mp hlt),
          ← h.length_eq] at hc
        rw [List.mem_singleton.mp (List.mem_of_getElem? hconn),
          List.mem_singleton.mp (List.mem_of_getElem? hc)]
        exact hnew port

end Traffic

end Device
end Rusbmux
