import Rusbmux.Device.Traffic

/-!
# Packets of other connections

Whether a connection is affected by a packet from a port that it is not to
depends on what the device sends: `Genuine` is the condition on the packets that
are read.  The invariant is that a channel whose first packet is a SYN-ACK holds
packets of its connection only.  Conversely a packet that breaks the condition
removes a live registration, or lies on a channel from which it is taken.
-/

namespace Rusbmux
namespace Device

open Foundation
open Rusbmux.Parser

theorem Demux.readPacket_channels {s t : Demux} {packet : UsbDevicePacket}
    (h : s.Invariant) (hstep : s.readPacket packet = some t) :
    t.channels = s.channels ∨
      exists hdr entry, packet.tcpHdr = some hdr ∧ hdr.rst = false ∧
        s.router.get hdr.destinationPort = some entry ∧
        s.alive entry.tx = true ∧
        t.channels = s.channels.modify entry.tx fun c =>
          (c.owe packet).push packet := by
  rcases Machine.of_disabled_if hstep with ⟨_, hdispatch⟩
  cases hhdr : packet.tcpHdr with
  | none =>
      rw [dispatch_of_none h hhdr] at hdispatch
      cases hdispatch
      exact Or.inl rfl
  | some hdr =>
      cases hrst : hdr.rst with
      | true =>
          rw [dispatch_of_rst hhdr hrst] at hdispatch
          cases hdispatch
          exact Or.inl rfl
      | false =>
          by_cases hlive : exists entry,
              s.router.get hdr.destinationPort = some entry ∧
                s.alive entry.tx = true
          · rcases hlive with ⟨entry, hget, halive⟩
            rw [dispatch_of_live h hhdr hrst hget halive hdispatch]
            exact Or.inr ⟨hdr, entry, rfl, hrst, hget, halive, rfl⟩
          · have hnobody : forall entry,
                s.router.get hdr.destinationPort = some entry ->
                  s.alive entry.tx = false := by
              intro entry hget
              by_contra hnot
              exact hlive ⟨entry, hget, eq_true_of_ne_false hnot⟩
            exact Or.inl
              (dispatch_of_nobody h hhdr hrst hnobody hdispatch).right

namespace Traffic

variable {s t : Traffic}

def opened (packets : List UsbDevicePacket) : Bool :=
  packets.head?.any isSynAck

theorem opened_concat {packets : List UsbDevicePacket}
    (hopened : opened packets = true) (packet : UsbDevicePacket) :
    opened (packets ++ [packet]) = true := by
  cases packets with
  | nil => cases hopened
  | cons first rest => exact hopened

/-- A connection has got as far as its channel has been read. -/
structure Fits (conn : TrafficConn) (c : PacketChannel) : Prop where
  taken_le : c.taken <= c.sent.length
  performing : conn.phase = .performing ->
    c.taken = 0 ∧ c.receiverAlive = true
  connected : conn.phase = .connected ->
    opened c.sent = true ∧ c.receiverAlive = true
  gone : conn.phase = .gone -> c.receiverAlive = false

def Clean (conn : TrafficConn) (c : PacketChannel) : Prop :=
  opened c.sent = true -> forall packet, packet ∈ c.sent -> conn.Owns packet

structure Shape (s : Traffic) : Prop where
  demux : s.demux.Invariant
  fits : s.Aligned Fits

structure Sound (s : Traffic) : Prop where
  shape : s.Shape
  clean : s.Aligned Clean
  noStale : s.NoStale

/-!
## One connection and its channel
-/

theorem Fits.new (sourcePort destinationPort : UInt16) :
    Fits { sourcePort := sourcePort, destinationPort := destinationPort }
      { port := sourcePort } where
  taken_le := Nat.le_refl 0
  performing := fun _ => ⟨rfl, rfl⟩
  connected := nofun
  gone := nofun

theorem taken_take_le {c : PacketChannel} :
    c.take.taken <= c.take.sent.length :=
  Nat.min_le_right _ _

theorem Fits.take {conn : TrafficConn} {c : PacketChannel}
    (hopened : opened c.sent = true) (halive : c.receiverAlive = true) :
    Fits (conn.enter .connected) c.take where
  taken_le := taken_take_le
  performing := nofun
  connected := fun _ => ⟨hopened, halive⟩
  gone := nofun

theorem Fits.enter_gone {conn : TrafficConn} {c : PacketChannel}
    (htaken : c.taken <= c.sent.length) :
    Fits (conn.enter .gone) c.dropReceiver where
  taken_le := htaken
  performing := nofun
  connected := nofun
  gone := fun _ => rfl

theorem Fits.push {conn : TrafficConn} {c : PacketChannel} (h : Fits conn c)
    (packet : UsbDevicePacket) :
    Fits conn ((c.owe packet).push packet) where
  taken_le := by
    show c.taken <= (c.sent ++ [packet]).length
    rw [List.length_append]
    exact Nat.le_add_right_of_le h.taken_le
  performing := h.performing
  connected := fun hphase =>
    ⟨opened_concat (h.connected hphase).left packet,
      (h.connected hphase).right⟩
  gone := h.gone

theorem Fits.opened_of_next {conn : TrafficConn} {c : PacketChannel}
    {packet : UsbDevicePacket} (h : Fits conn c)
    (hphase : conn.phase = .performing) (hnext : c.next = some packet)
    (hsynAck : isSynAck packet = true) : opened c.sent = true := by
  unfold PacketChannel.next at hnext
  rw [(h.performing hphase).left] at hnext
  unfold opened
  rw [List.head?_eq_getElem?, hnext]
  exact hsynAck

theorem Clean.enter {conn : TrafficConn} {c d : PacketChannel}
    (h : Clean conn c) (phase : ConnPhase) (hsent : d.sent = c.sent) :
    Clean (conn.enter phase) d := by
  intro hopened packet hmem
  rw [hsent] at hopened hmem
  exact h hopened packet hmem

theorem Clean.push {conn : TrafficConn} {c : PacketChannel}
    {packet : UsbDevicePacket} (h : Clean conn c)
    (howns : opened (c.sent ++ [packet]) = true -> conn.Owns packet) :
    Clean conn ((c.owe packet).push packet) := by
  intro hopened other hmem
  change opened (c.sent ++ [packet]) = true at hopened
  change other ∈ c.sent ++ [packet] at hmem
  rcases List.mem_append.mp hmem with hold | hnew
  · cases hsent : c.sent with
    | nil =>
        rw [hsent] at hold
        cases hold
    | cons first rest =>
        rw [hsent] at hopened
        have hbefore : opened c.sent = true := by
          rw [hsent]
          exact hopened
        exact h hbefore other hold
  · rw [List.mem_singleton.mp hnew]
    exact howns hopened

/-!
## Steps
-/

structure Receives (s : Traffic) (tx : Nat) (t : Traffic) (conn : TrafficConn)
    (c : PacketChannel) (packet : UsbDevicePacket)
    (affected : List (Nat × UsbDevicePacket)) : Prop where
  conn_eq : s.conns[tx]? = some conn
  channel_eq : s.demux.channels[tx]? = some c
  next_eq : c.next = some packet
  noted : affected = s.affected ∨
    affected = s.affected ++ [(tx, packet)] ∧ opened c.sent = true
  result : t = updateConn { s with affected := affected } tx .connected
        (fun c => c.take) ∧ opened c.sent = true ∧ c.receiverAlive = true ∨
      t = updateConn { s with affected := affected } tx .gone
        fun c => c.take.dropReceiver

theorem receives_of_handshake (h : s.Shape) {tx : Nat} {acked : Bool}
    (hstep : s.handshake tx acked = some t) :
    exists conn c packet affected, s.Receives tx t conn c packet affected := by
  rcases handshake_cases hstep with ⟨conn, packet, hwaiting, hphase, ht⟩
  rcases waiting_eq_some hwaiting with ⟨hconn, c, hc, hnext⟩
  have hfits : Fits conn c := h.fits.each tx conn c hconn hc
  cases hsynAck : isSynAck packet with
  | false =>
      rw [hsynAck] at ht
      exact ⟨conn, c, packet, s.affected, hconn, hc, hnext, Or.inl rfl,
        Or.inr ht⟩
  | true =>
      have hopened := hfits.opened_of_next hphase hnext hsynAck
      refine ⟨conn, c, packet, s.affected ++ [(tx, packet)], hconn, hc, hnext,
        Or.inr ⟨rfl, hopened⟩, ?_⟩
      rw [hsynAck] at ht
      cases acked with
      | true => exact Or.inl ⟨ht, hopened, (hfits.performing hphase).right⟩
      | false => exact Or.inr ht

theorem receives_of_recv (h : s.Shape) {tx : Nat} {acked : Bool}
    (hstep : s.recv tx acked = some t) :
    exists conn c packet affected, s.Receives tx t conn c packet affected := by
  rcases recv_cases hstep with ⟨conn, packet, hwaiting, hphase, ht⟩
  rcases waiting_eq_some hwaiting with ⟨hconn, c, hc, hnext⟩
  have hopened := (h.fits.each tx conn c hconn hc).connected hphase
  cases acked with
  | false =>
      exact ⟨conn, c, packet, s.affected, hconn, hc, hnext, Or.inl rfl,
        Or.inl ⟨ht, hopened⟩⟩
  | true =>
      exact ⟨conn, c, packet, s.affected ++ [(tx, packet)], hconn, hc, hnext,
        Or.inr ⟨rfl, hopened.left⟩, Or.inl ⟨ht, hopened⟩⟩

theorem Shape.of_same (h : s.Shape) (hdemux : t.demux.Invariant)
    (hconns : t.conns = s.conns)
    (hchannels : t.demux.channels = s.demux.channels) : t.Shape where
  demux := hdemux
  fits := h.fits.of_same hconns hchannels

theorem Shape.receives (h : s.Shape) {tx : Nat} {conn : TrafficConn}
    {c : PacketChannel} {packet : UsbDevicePacket}
    {affected : List (Nat × UsbDevicePacket)}
    (hreceives : s.Receives tx t conn c packet affected) : t.Shape := by
  rcases hreceives.result with ⟨rfl, hopened, halive⟩ | rfl
  · constructor
    · exact h.demux.modify tx (fun _ => rfl) fun _ hexact => hexact
    · apply h.fits.modify tx rfl rfl
      intro conn' c' _ hc' _
      cases hreceives.channel_eq.symm.trans hc'
      exact Fits.take hopened halive
  · constructor
    · exact h.demux.modify tx (fun _ => rfl) fun _ hexact => hexact
    · apply h.fits.modify tx rfl rfl
      intro conn' c' _ _ _
      exact Fits.enter_gone taken_take_le

theorem Shape.readPacket (h : s.Shape) {packet : UsbDevicePacket}
    (hstep : s.readPacket packet = some t) : t.Shape := by
  rcases Option.map_eq_some_iff.mp hstep with ⟨demux, hread, rfl⟩
  have hdemux : demux.Invariant :=
    Demux.invariant_step (a := .readPacket packet) h.demux hread
  rcases Demux.readPacket_channels h.demux hread with hchannels |
    ⟨hdr, entry, _, _, _, _, hchannels⟩
  · exact h.of_same hdemux rfl hchannels
  · constructor
    · exact hdemux
    · have hpush : forall conn c, s.conns[entry.tx]? = some conn ->
          s.demux.channels[entry.tx]? = some c -> Fits conn c ->
            Fits conn ((c.owe packet).push packet) :=
        fun _ _ _ _ hfits => hfits.push packet
      apply h.fits.modifyChannel entry.tx
      · rfl
      · exact hchannels
      · exact hpush

theorem channels_ofDemux {a : Demux.Action}
    (ha : a = .clear ∨ a = .finishRoute ∨ a = .readFailed ∨
      (exists port, a = .unregister port) ∨
      exists sourcePort conn, a = .attachConn sourcePort conn)
    (hstep : s.ofDemux a = some t) :
    t.conns = s.conns ∧ t.demux.channels = s.demux.channels ∧
      t.affected = s.affected ∧ Demux.step s.demux a = some t.demux := by
  rcases Option.map_eq_some_iff.mp hstep with ⟨demux, hdemux, rfl⟩
  refine ⟨rfl, ?_, rfl, hdemux⟩
  rcases ha with rfl | rfl | rfl | ⟨port, rfl⟩ | ⟨sourcePort, conn, rfl⟩
  · cases hdemux
    rfl
  · rcases Option.map_eq_some_iff.mp hdemux with ⟨port, _, rfl⟩
    rfl
  · rcases Machine.of_disabled_if hdemux with ⟨_, hcleared⟩
    cases hcleared
    rfl
  · cases hdemux
    rfl
  · cases hdemux
    rfl

theorem demux_connect (s : Traffic) (destinationPort : UInt16) :
    (s.connect destinationPort).demux = s.demux.register ∧
      (s.connect destinationPort).affected = s.affected := by
  rcases connect_cases s destinationPort with ⟨heq, _⟩ | ⟨port, heq, _⟩
  · rw [heq]
    exact ⟨rfl, rfl⟩
  · rw [heq]
    exact ⟨rfl, rfl⟩

theorem Shape.step {a : Action} (h : s.Shape) (hstep : step s a = some t) :
    t.Shape := by
  have hother : forall {action : Demux.Action},
      (action = .clear ∨ action = .finishRoute ∨ action = .readFailed ∨
        (exists port, action = .unregister port) ∨
        exists sourcePort conn, action = .attachConn sourcePort conn) ->
      s.ofDemux action = some t -> t.Shape := by
    intro action haction hdone
    rcases channels_ofDemux haction hdone with ⟨hconns, hchannels, _, hdemux⟩
    exact h.of_same (Demux.invariant_step h.demux hdemux) hconns hchannels
  cases a with
  | connect destinationPort =>
      cases hstep
      constructor
      · rw [(demux_connect s destinationPort).left]
        exact Demux.invariant_register h.demux
      · exact h.fits.connect destinationPort fun port => Fits.new port _
  | handshake tx acked =>
      rcases receives_of_handshake h hstep with ⟨_, _, _, _, hreceives⟩
      exact h.receives hreceives
  | recv tx acked =>
      rcases receives_of_recv h hstep with ⟨_, _, _, _, hreceives⟩
      exact h.receives hreceives
  | drop tx =>
      cases hstep
      constructor
      · exact h.demux.modify tx (fun _ => rfl) fun _ hexact => hexact
      · apply h.fits.modify tx rfl rfl
        intro conn c _ _ hfits
        exact Fits.enter_gone hfits.taken_le
  | unregister port => exact hother (by simp) hstep
  | attachConn sourcePort conn => exact hother (by simp) hstep
  | clear => exact hother (by simp) hstep
  | readPacket packet => exact h.readPacket hstep
  | finishRoute => exact hother (by simp) hstep
  | readFailed => exact hother (by simp) hstep

def Keeps (s t : Traffic) : Prop :=
  forall (tx : Nat) conn, s.conns[tx]? = some conn ->
    exists later, t.conns[tx]? = some later ∧
      later.destinationPort = conn.destinationPort

theorem keeps_of_same (hconns : t.conns = s.conns) : s.Keeps t := by
  intro tx conn hconn
  rw [← hconns] at hconn
  exact ⟨conn, hconn, rfl⟩

theorem keeps_updateConn (tx : Nat) (phase : ConnPhase)
    (f : PacketChannel -> PacketChannel)
    (affected : List (Nat × UsbDevicePacket)) :
    s.Keeps (updateConn { s with affected := affected } tx phase f) := by
  intro ty conn hconn
  refine ⟨if tx = ty then conn.enter phase else conn, ?_, ?_⟩
  · show (s.conns.modify tx _)[ty]? = _
    rw [List.getElem?_modify, hconn]
    rfl
  · split
    · rfl
    · rfl

theorem Receives.keeps {tx : Nat} {conn : TrafficConn} {c : PacketChannel}
    {packet : UsbDevicePacket} {affected : List (Nat × UsbDevicePacket)}
    (h : s.Receives tx t conn c packet affected) : s.Keeps t := by
  rcases h.result with ⟨rfl, _, _⟩ | rfl
  · exact keeps_updateConn tx _ _ affected
  · exact keeps_updateConn tx _ _ affected

theorem Receives.affected_eq {tx : Nat} {conn : TrafficConn}
    {c : PacketChannel} {packet : UsbDevicePacket}
    {affected : List (Nat × UsbDevicePacket)}
    (h : s.Receives tx t conn c packet affected) : t.affected = affected := by
  rcases h.result with ⟨rfl, _, _⟩ | rfl
  · rfl
  · rfl

theorem keeps_connect (s : Traffic) (destinationPort : UInt16) :
    s.Keeps (s.connect destinationPort) := by
  rcases connect_cases s destinationPort with ⟨heq, _⟩ | ⟨port, heq, _⟩
  · rw [heq]
    exact keeps_of_same rfl
  · intro tx conn hconn
    rw [heq]
    refine ⟨conn, ?_, rfl⟩
    show (s.conns ++ [_])[tx]? = some conn
    rw [List.getElem?_append_left (List.getElem?_eq_some_iff.mp hconn).fst]
    exact hconn

theorem Owns_of_port_eq {conn later : TrafficConn} {packet : UsbDevicePacket}
    (hport : later.destinationPort = conn.destinationPort)
    (howns : conn.Owns packet) : later.Owns packet := by
  rcases howns with ⟨hdr, hhdr, hsource⟩
  exact ⟨hdr, hhdr, hsource.trans hport.symm⟩

theorem NoStale.of_keeps (h : s.NoStale) (hkeeps : s.Keeps t)
    (haffected : forall tx packet, (tx, packet) ∈ t.affected ->
      (tx, packet) ∈ s.affected ∨
        exists conn, s.conns[tx]? = some conn ∧ conn.Owns packet) :
    t.NoStale := by
  intro tx packet hmem
  have hbefore : exists conn, s.conns[tx]? = some conn ∧ conn.Owns packet := by
    rcases haffected tx packet hmem with hold | hnew
    · exact h tx packet hold
    · exact hnew
  rcases hbefore with ⟨conn, hconn, howns⟩
  rcases hkeeps tx conn hconn with ⟨later, hlater, hport⟩
  exact ⟨later, hlater, Owns_of_port_eq hport howns⟩

/-!
## Genuine packets
-/

theorem owns_of_genuine {packet : UsbDevicePacket} {hdr : TcpHeader}
    {entry : PacketEntry} {conn : TrafficConn} {c : PacketChannel}
    (hguard : s.Genuine (.readPacket packet)) (hhdr : packet.tcpHdr = some hdr)
    (hget : s.demux.router.get hdr.destinationPort = some entry)
    (hconn : s.conns[entry.tx]? = some conn)
    (hc : s.demux.channels[entry.tx]? = some c)
    (halive : s.demux.alive entry.tx = true)
    (hcounts : hdr.rst = true ∨ opened (c.sent ++ [packet]) = true) :
    conn.Owns packet := by
  rw [Demux.alive_iff hc] at halive
  exact ⟨hdr, hhdr, hguard hdr entry conn c hhdr hget hconn hc halive hcounts⟩

theorem mem_reset {packet other : UsbDevicePacket} {tx : Nat}
    (hmem : (tx, other) ∈ s.reset packet) :
    other = packet ∧ exists hdr entry, packet.tcpHdr = some hdr ∧
      hdr.rst = true ∧ entry.tx = tx ∧
      s.demux.router.get hdr.destinationPort = some entry ∧
      s.demux.alive tx = true := by
  unfold reset at hmem
  split at hmem
  · rename_i hdr hhdr
    split at hmem
    · rename_i entry hget
      split at hmem
      · rename_i hboth
        rcases Bool.and_eq_true_iff.mp hboth with ⟨hrst, halive⟩
        cases List.mem_singleton.mp hmem
        exact ⟨rfl, hdr, entry, hhdr, hrst, rfl, hget, halive⟩
      · cases hmem
    · cases hmem
  · cases hmem

theorem Shape.conn_of_alive (h : s.Shape) {tx : Nat}
    (halive : s.demux.alive tx = true) :
    exists conn c, s.conns[tx]? = some conn ∧
      s.demux.channels[tx]? = some c ∧ c.receiverAlive = true := by
  rcases (Option.any_eq_true _ _).mp halive with ⟨c, hc, hreceiver⟩
  have hlt : tx < s.conns.length := by
    rw [h.fits.length_eq]
    exact (List.getElem?_eq_some_iff.mp hc).fst
  exact ⟨s.conns[tx], c, List.getElem?_eq_getElem hlt, hc, hreceiver⟩

theorem Sound.receives (h : s.Sound) {tx : Nat} {conn : TrafficConn}
    {c : PacketChannel} {packet : UsbDevicePacket}
    {affected : List (Nat × UsbDevicePacket)}
    (hreceives : s.Receives tx t conn c packet affected) : t.Sound where
  shape := h.shape.receives hreceives
  clean := by
    rcases hreceives.result with ⟨rfl, _, _⟩ | rfl
    · apply h.clean.modify tx rfl rfl
      intro _ _ _ _ hclean
      exact hclean.enter .connected rfl
    · apply h.clean.modify tx rfl rfl
      intro _ _ _ _ hclean
      exact hclean.enter .gone rfl
  noStale := by
    apply h.noStale.of_keeps hreceives.keeps
    intro ty other hmem
    rw [hreceives.affected_eq] at hmem
    rcases hreceives.noted with hsame | ⟨hnoted, hopened⟩
    · rw [hsame] at hmem
      exact Or.inl hmem
    · rw [hnoted] at hmem
      rcases List.mem_append.mp hmem with hold | hnew
      · exact Or.inl hold
      · cases List.mem_singleton.mp hnew
        have hsent : packet ∈ c.sent :=
          List.mem_of_getElem? hreceives.next_eq
        exact Or.inr ⟨conn, hreceives.conn_eq,
          h.clean.each tx conn c hreceives.conn_eq hreceives.channel_eq hopened
            packet hsent⟩

theorem Sound.readPacket (h : s.Sound) {packet : UsbDevicePacket}
    (hguard : s.Genuine (.readPacket packet))
    (hstep : s.readPacket packet = some t) : t.Sound where
  shape := h.shape.readPacket hstep
  clean := by
    rcases Option.map_eq_some_iff.mp hstep with ⟨demux, hread, rfl⟩
    rcases Demux.readPacket_channels h.shape.demux hread with hchannels |
      ⟨hdr, entry, hhdr, _, hget, halive, hchannels⟩
    · exact h.clean.of_same rfl hchannels
    · have hpush : forall conn c, s.conns[entry.tx]? = some conn ->
          s.demux.channels[entry.tx]? = some c -> Clean conn c ->
            Clean conn ((c.owe packet).push packet) := by
        intro conn c hconn hc hclean
        apply hclean.push
        intro hopened
        exact owns_of_genuine hguard hhdr hget hconn hc halive
          (Or.inr hopened)
      apply h.clean.modifyChannel entry.tx
      · rfl
      · exact hchannels
      · exact hpush
  noStale := by
    rcases Option.map_eq_some_iff.mp hstep with ⟨demux, _, rfl⟩
    have hkeeps : s.Keeps { s with
        demux := demux, affected := s.affected ++ s.reset packet } :=
      keeps_of_same rfl
    apply h.noStale.of_keeps hkeeps
    intro tx other hmem
    rcases List.mem_append.mp hmem with hold | hreset
    · exact Or.inl hold
    · rcases mem_reset hreset with
        ⟨rfl, hdr, entry, hhdr, hrst, rfl, hget, halive⟩
      rcases h.shape.conn_of_alive halive with ⟨conn, c, hconn, hc, _⟩
      exact Or.inr ⟨conn, hconn,
        owns_of_genuine hguard hhdr hget hconn hc halive (Or.inl hrst)⟩

theorem Sound.step {a : Action} (h : s.Sound) (hstep : step s a = some t)
    (hguard : s.Genuine a) : t.Sound := by
  have hother : forall {action : Demux.Action},
      (action = .clear ∨ action = .finishRoute ∨ action = .readFailed ∨
        (exists port, action = .unregister port) ∨
        exists sourcePort conn, action = .attachConn sourcePort conn) ->
      s.ofDemux action = some t -> t.Sound := by
    intro action haction hdone
    rcases channels_ofDemux haction hdone with
      ⟨hconns, hchannels, haffected, _⟩
    refine ⟨h.shape.step hstep, h.clean.of_same hconns hchannels, ?_⟩
    apply h.noStale.of_keeps (keeps_of_same hconns)
    intro tx packet hmem
    rw [haffected] at hmem
    exact Or.inl hmem
  cases a with
  | connect destinationPort =>
      refine ⟨h.shape.step hstep, ?_, ?_⟩
      · cases hstep
        exact h.clean.connect destinationPort fun port => nofun
      · cases hstep
        apply h.noStale.of_keeps (keeps_connect s destinationPort)
        intro tx packet hmem
        rw [(demux_connect s destinationPort).right] at hmem
        exact Or.inl hmem
  | handshake tx acked =>
      rcases receives_of_handshake h.shape hstep with ⟨_, _, _, _, hreceives⟩
      exact h.receives hreceives
  | recv tx acked =>
      rcases receives_of_recv h.shape hstep with ⟨_, _, _, _, hreceives⟩
      exact h.receives hreceives
  | drop tx =>
      refine ⟨h.shape.step hstep, ?_, ?_⟩
      · cases hstep
        apply h.clean.modify tx rfl rfl
        intro _ _ _ _ hclean
        exact hclean.enter .gone rfl
      · cases hstep
        exact h.noStale.of_keeps (keeps_updateConn tx .gone _ s.affected)
          fun _ _ hmem => Or.inl hmem
  | unregister port => exact hother (by simp) hstep
  | attachConn sourcePort conn => exact hother (by simp) hstep
  | clear => exact hother (by simp) hstep
  | readPacket packet => exact h.readPacket hguard hstep
  | finishRoute => exact hother (by simp) hstep
  | readFailed => exact hother (by simp) hstep

theorem aligned_init {Q : TrafficConn -> PacketChannel -> Prop} :
    Aligned Q {} where
  length_eq := rfl
  each := by
    intro tx conn c hconn _
    rw [List.getElem?_nil] at hconn
    cases hconn

theorem Shape.init : Shape {} where
  demux := Demux.Invariant.init
  fits := aligned_init

theorem Sound.init : Sound {} where
  shape := Shape.init
  clean := aligned_init
  noStale := by
    intro tx packet hmem
    cases hmem

/-!
## Packets that are not genuine
-/

theorem Keeps.trans {u : Traffic} (h : s.Keeps t) (h' : t.Keeps u) :
    s.Keeps u := by
  intro tx conn hconn
  rcases h tx conn hconn with ⟨mid, hmid, hport⟩
  rcases h' tx mid hmid with ⟨later, hlater, hlaterPort⟩
  exact ⟨later, hlater, hlaterPort.trans hport⟩

theorem keeps_step {a : Action} (h : s.Shape) (hstep : step s a = some t) :
    s.Keeps t := by
  have hother : forall {action : Demux.Action},
      s.ofDemux action = some t -> s.Keeps t := by
    intro action hdone
    rcases Option.map_eq_some_iff.mp hdone with ⟨demux, _, rfl⟩
    exact keeps_of_same rfl
  cases a with
  | connect destinationPort =>
      cases hstep
      exact keeps_connect s destinationPort
  | handshake tx acked =>
      rcases receives_of_handshake h hstep with ⟨_, _, _, _, hreceives⟩
      exact hreceives.keeps
  | recv tx acked =>
      rcases receives_of_recv h hstep with ⟨_, _, _, _, hreceives⟩
      exact hreceives.keeps
  | drop tx =>
      cases hstep
      exact keeps_updateConn tx .gone _ s.affected
  | unregister port => exact hother hstep
  | attachConn sourcePort conn => exact hother hstep
  | clear => exact hother hstep
  | readPacket packet =>
      rcases Option.map_eq_some_iff.mp hstep with ⟨demux, _, rfl⟩
      exact keeps_of_same rfl
  | finishRoute => exact hother hstep
  | readFailed => exact hother hstep

theorem keeps_run {actions : List Action} (h : s.Shape)
    (hrun : Machine.run step s actions = some t) : s.Keeps t := by
  have hkeep : forall u a v, (u.Shape ∧ s.Keeps u) -> step u a = some v ->
      v.Shape ∧ s.Keeps v := by
    intro u a v hu hstep
    exact ⟨hu.left.step hstep, hu.right.trans (keeps_step hu.left hstep)⟩
  exact (Machine.run_invariant hkeep ⟨h, keeps_of_same rfl⟩ hrun).right

theorem recv_of_next {tx : Nat} {conn : TrafficConn} {c : PacketChannel}
    {packet : UsbDevicePacket} (hconn : s.conns[tx]? = some conn)
    (hphase : conn.phase = .connected)
    (hc : s.demux.channels[tx]? = some c) (hnext : c.next = some packet) :
    step s (.recv tx true) =
      some ((s.note tx packet).updateConn tx .connected fun c => c.take) := by
  show s.recv tx true = _
  unfold recv
  rw [waiting_of_next hconn hc hnext]
  simp only [hphase, if_true]

theorem get_updateConn {tx : Nat} {conn : TrafficConn} {c : PacketChannel}
    {phase : ConnPhase} {f : PacketChannel -> PacketChannel}
    (hconn : s.conns[tx]? = some conn) (hc : s.demux.channels[tx]? = some c) :
    (s.updateConn tx phase f).conns[tx]? = some (conn.enter phase) ∧
      (s.updateConn tx phase f).demux.channels[tx]? = some (f c) := by
  constructor
  · show (s.conns.modify tx _)[tx]? = _
    rw [List.getElem?_modify_eq, hconn]
    rfl
  · show (s.demux.channels.modify tx f)[tx]? = _
    rw [List.getElem?_modify_eq, hc]
    rfl

theorem mem_affected_of_receive {tx ty : Nat} {packet : UsbDevicePacket}
    {phase : ConnPhase} {f : PacketChannel -> PacketChannel} :
    (tx, packet) ∈ ((s.note tx packet).updateConn ty phase f).affected :=
  List.mem_append_right _ (List.mem_singleton_self _)

theorem take_pending {c : PacketChannel} {k : Nat} {packet : UsbDevicePacket}
    (hpending : c.sent[c.taken + (k + 1)]? = some packet) :
    c.take.sent[c.take.taken + k]? = some packet := by
  have hlt : c.taken + (k + 1) < c.sent.length :=
    (List.getElem?_eq_some_iff.mp hpending).fst
  show c.sent[min (c.taken + 1) c.sent.length + k]? = some packet
  rw [Nat.min_eq_left (by omega), Nat.add_assoc, Nat.add_comm 1 k]
  exact hpending

theorem recv_pending {tx k : Nat} {conn : TrafficConn} {c : PacketChannel}
    {packet : UsbDevicePacket} (hconn : s.conns[tx]? = some conn)
    (hphase : conn.phase = .connected)
    (hc : s.demux.channels[tx]? = some c)
    (hpending : c.sent[c.taken + k]? = some packet) :
    exists t, Machine.run step s (List.replicate (k + 1) (.recv tx true)) =
      some t ∧ (tx, packet) ∈ t.affected := by
  induction k generalizing s conn c with
  | zero =>
      have hstep := recv_of_next hconn hphase hc hpending
      exact ⟨_, Machine.run_cons_of_step hstep [], mem_affected_of_receive⟩
  | succ k ih =>
      have hlt : c.taken + (k + 1) < c.sent.length :=
        (List.getElem?_eq_some_iff.mp hpending).fst
      have hnext : c.next = some c.sent[c.taken] :=
        List.getElem?_eq_getElem (by omega)
      let u := (s.note tx c.sent[c.taken]).updateConn tx .connected
        fun c => c.take
      have hafter : u.conns[tx]? = some (conn.enter .connected) ∧
          u.demux.channels[tx]? = some c.take := get_updateConn hconn hc
      rcases ih hafter.left rfl hafter.right (take_pending hpending) with
        ⟨t, hrun, hmem⟩
      refine ⟨t, ?_, hmem⟩
      rw [List.replicate_succ]
      exact (Machine.run_cons_of_step
        (recv_of_next hconn hphase hc hnext) _).trans hrun

theorem receive_pending (h : s.Shape) {tx k : Nat} {conn : TrafficConn}
    {c : PacketChannel} {packet : UsbDevicePacket}
    (hconn : s.conns[tx]? = some conn) (hc : s.demux.channels[tx]? = some c)
    (halive : c.receiverAlive = true) (hopened : opened c.sent = true)
    (hpending : c.sent[c.taken + k]? = some packet) :
    exists later t, (forall a, a ∈ later -> IsReceive a) ∧
      Machine.run step s later = some t ∧ (tx, packet) ∈ t.affected := by
  have hreceive : forall n, forall a, a ∈ List.replicate n
      (Action.recv tx true) -> IsReceive a := by
    intro n a ha
    rw [List.eq_of_mem_replicate ha]
    trivial
  have hfits : Fits conn c := h.fits.each tx conn c hconn hc
  cases hphase : conn.phase with
  | gone =>
      rw [hfits.gone hphase] at halive
      cases halive
  | connected =>
      rcases recv_pending hconn hphase hc hpending with ⟨t, hrun, hmem⟩
      exact ⟨_, t, hreceive _, hrun, hmem⟩
  | performing =>
      rcases (Option.any_eq_true _ _).mp hopened with ⟨first, hfirst, hsynAck⟩
      have htaken : c.taken = 0 := (hfits.performing hphase).left
      have hnext : c.next = some first := by
        unfold PacketChannel.next
        rw [htaken, ← List.head?_eq_getElem?]
        exact hfirst
      have hstep : step s (.handshake tx true) =
          some ((s.note tx first).updateConn tx .connected fun c => c.take) := by
        refine (handshake_of_waiting true (waiting_of_next hconn hc hnext)
          hphase).trans ?_
        rw [hsynAck]
        rfl
      let u := (s.note tx first).updateConn tx .connected fun c => c.take
      have hafter : u.conns[tx]? = some (conn.enter .connected) ∧
          u.demux.channels[tx]? = some c.take := get_updateConn hconn hc
      cases k with
      | zero =>
          cases hnext.symm.trans hpending
          refine ⟨[.handshake tx true], u, ?_,
            Machine.run_cons_of_step hstep [], mem_affected_of_receive⟩
          intro a ha
          rw [List.mem_singleton.mp ha]
          trivial
      | succ k =>
          rcases recv_pending hafter.left rfl hafter.right
            (take_pending hpending) with ⟨t, hrun, hmem⟩
          refine ⟨.handshake tx true :: List.replicate (k + 1) (.recv tx true),
            t, ?_, (Machine.run_cons_of_step hstep _).trans hrun, hmem⟩
          intro a ha
          rcases List.mem_cons.mp ha with rfl | ha
          · trivial
          · exact hreceive _ a ha

theorem not_noStale_of_mem {u : Traffic} {tx : Nat} {conn : TrafficConn}
    {packet : UsbDevicePacket} {hdr : TcpHeader} (hkeeps : s.Keeps u)
    (hconn : s.conns[tx]? = some conn) (hhdr : packet.tcpHdr = some hdr)
    (hforeign : hdr.sourcePort ≠ conn.destinationPort)
    (hmem : (tx, packet) ∈ u.affected) : ¬ u.NoStale := by
  intro hnoStale
  rcases hnoStale tx packet hmem with ⟨later, hlater, other, hother, hsource⟩
  rcases hkeeps tx conn hconn with ⟨same, hsame, hport⟩
  cases hlater.symm.trans hsame
  cases hhdr.symm.trans hother
  exact hforeign (hsource.trans hport)

theorem stale_of_not_genuine {a : Action} (h : s.Shape)
    (hstep : step s a = some t) (hnot : ¬ s.Genuine a) :
    exists later u, (forall b, b ∈ later -> IsReceive b) ∧
      Machine.run step t later = some u ∧ ¬ u.NoStale := by
  cases a with
  | readPacket packet =>
      have hforeign : exists hdr entry conn c, packet.tcpHdr = some hdr ∧
          s.demux.router.get hdr.destinationPort = some entry ∧
          s.conns[entry.tx]? = some conn ∧
          s.demux.channels[entry.tx]? = some c ∧ c.receiverAlive = true ∧
          (hdr.rst = true ∨ opened (c.sent ++ [packet]) = true) ∧
          hdr.sourcePort ≠ conn.destinationPort := by
        by_contra hnone
        apply hnot
        intro hdr entry conn c hhdr hget hconn hc halive hcounts
        by_contra hne
        exact hnone ⟨hdr, entry, conn, c, hhdr, hget, hconn, hc, halive,
          hcounts, hne⟩
      rcases hforeign with
        ⟨hdr, entry, conn, c, hhdr, hget, hconn, hc, halive, hcounts, hne⟩
      have hlive : s.demux.alive entry.tx = true := by
        rw [Demux.alive_iff hc]
        exact halive
      cases hrst : hdr.rst with
      | true =>
          have hreset : s.reset packet = [(entry.tx, packet)] := by
            unfold reset
            simp only [hhdr, hget, hrst, hlive, Bool.and_self, if_true]
          have hmem : (entry.tx, packet) ∈ t.affected := by
            rcases Option.map_eq_some_iff.mp hstep with ⟨demux, _, rfl⟩
            show (entry.tx, packet) ∈ s.affected ++ s.reset packet
            rw [hreset]
            exact List.mem_append_right _ (List.mem_singleton_self _)
          have hstale : ¬ t.NoStale :=
            not_noStale_of_mem (keeps_step h hstep) hconn hhdr hne hmem
          have hreceive : forall b, b ∈ ([] : List Action) -> IsReceive b := by
            intro b hb
            cases hb
          exact ⟨[], t, hreceive, rfl, hstale⟩
      | false =>
          rw [hrst] at hcounts
          have hopened : opened (c.sent ++ [packet]) = true :=
            hcounts.resolve_left Bool.false_ne_true
          rcases Option.map_eq_some_iff.mp hstep with ⟨demux, hdemux, ht⟩
          have hdispatch := (Machine.of_disabled_if hdemux).right
          have hchannel : t.demux.channels[entry.tx]? =
              some ((c.owe packet).push packet) := by
            rw [← ht]
            show demux.channels[entry.tx]? = _
            rw [Demux.dispatch_of_live h.demux hhdr hrst hget hlive hdispatch]
            show (s.demux.channels.modify entry.tx _)[entry.tx]? = _
            rw [List.getElem?_modify_eq, hc]
            rfl
          have htaken : c.taken <= c.sent.length :=
            (h.fits.each entry.tx conn c hconn hc).taken_le
          have hpending : (c.sent ++ [packet])[c.taken +
              (c.sent.length - c.taken)]? = some packet := by
            rw [Nat.add_sub_cancel' htaken, List.getElem?_concat_length]
          rcases keeps_step h hstep entry.tx conn hconn with
            ⟨later, hlater, hport⟩
          rcases receive_pending (h.step hstep) hlater hchannel halive hopened
            hpending with ⟨actions, u, hreceive, hrun, hmem⟩
          exact ⟨actions, u, hreceive, hrun,
            not_noStale_of_mem ((keeps_step h hstep).trans
              (keeps_run (h.step hstep) hrun)) hconn hhdr hne hmem⟩
  | connect destinationPort => exact absurd trivial hnot
  | handshake tx acked => exact absurd trivial hnot
  | recv tx acked => exact absurd trivial hnot
  | drop tx => exact absurd trivial hnot
  | unregister port => exact absurd trivial hnot
  | attachConn sourcePort conn => exact absurd trivial hnot
  | clear => exact absurd trivial hnot
  | finishRoute => exact absurd trivial hnot
  | readFailed => exact absurd trivial hnot

theorem genuine_of_isReceive {a : Action} (ha : IsReceive a) : s.Genuine a := by
  cases a with
  | handshake tx acked => exact trivial
  | recv tx acked => exact trivial
  | connect destinationPort => cases ha
  | drop tx => cases ha
  | unregister port => cases ha
  | attachConn sourcePort conn => cases ha
  | clear => cases ha
  | readPacket packet => cases ha
  | finishRoute => cases ha
  | readFailed => cases ha

/--
In a run, whatever the connections receive at any point of it, nothing stale
has an effect if and only if every packet that is read is genuine.
-/
theorem noStale_iff_genuine (actions : List Action) :
    (forall pre later, pre <+: actions ->
      (forall a, a ∈ later -> IsReceive a) ->
        Machine.Throughout step NoStale {} (pre ++ later)) <->
      Machine.Guarded step Genuine {} actions := by
  apply Machine.throughout_extended_iff_guarded (S := Shape) (I := Sound)
  · intro s a t h hstep
    exact h.step hstep
  · intro s a t h _ hstep hguard
    exact h.step hstep hguard
  · intro s h
    exact h.noStale
  · intro s a ha
    exact genuine_of_isReceive ha
  · intro s a t h hstep hnot
    exact stale_of_not_genuine h hstep hnot
  · exact Shape.init
  · exact Sound.init

def leftover : UsbDevicePacket where
  header := .v1 (.new .tcp 28)
  tcpHdr := some
    { sourcePort := 1234, destinationPort := 1, sequenceNumber := 0
      acknowledgmentNumber := 1, syn := true, ack := true, windowSize := 512 }
  payload := .bytes []

/-- The SYN-ACK of an earlier run opens the first connection of this one. -/
theorem not_noStale_leftover :
    ¬ forall actions, Machine.Throughout step NoStale {} actions := by
  intro h
  have hrun := h [.connect 62078, .readPacket leftover, .handshake 0 true]
  rcases hrun.last rfl 0 leftover (List.mem_singleton_self _) with
    ⟨conn, hconn, hdr, hhdr, hsource⟩
  cases hconn
  cases hhdr
  exact absurd hsource (by decide)

end Traffic

end Device
end Rusbmux
