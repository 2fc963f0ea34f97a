import Rusbmux.Device.Demultiplexing

/-!
# The channels of the connections

What a step of the router and the reader loop does to one channel.  A channel
that has left the routes, or whose receiver is gone, never comes back, and as
long as it is there it is owed every packet that is read for its port.
-/

namespace Rusbmux
namespace Device
namespace Demux

open Foundation
open Rusbmux.Parser

/-!
## What a step does to one channel
-/

variable {s t : Demux}

theorem registered_of_routes {tx : Nat} {c d : PacketChannel}
    (hroutes : forall entry, entry ∈ t.router.routes -> entry.tx = tx ->
      exists old, old ∈ s.router.routes ∧ old.port = entry.port ∧
        old.tx = entry.tx)
    (hport : d.port = c.port) (h : t.registered tx d = true) :
    s.registered tx c = true := by
  rcases registered_iff.mp h with ⟨entry, hmem, hentry, htx⟩
  rcases hroutes entry hmem htx with ⟨old, hold, hsame, holdTx⟩
  exact registered_iff.mpr ⟨old, hold, hsame.trans (hentry.trans hport),
    holdTx.trans htx⟩

theorem registered_of_subset {tx : Nat} {c d : PacketChannel}
    (hroutes : forall entry, entry ∈ t.router.routes ->
      entry ∈ s.router.routes)
    (hport : d.port = c.port) (h : t.registered tx d = true) :
    s.registered tx c = true :=
  registered_of_routes (fun entry hmem _ => ⟨entry, hroutes entry hmem, rfl,
    rfl⟩) hport h

structure Lasts (s t : Demux) (tx : Nat) (c d : PacketChannel) : Prop where
  found : t.channels[tx]? = some d
  port : d.port = c.port
  sent : d.sent = c.sent
  due : d.due = c.due
  alive : d.receiverAlive = true -> c.receiverAlive = true
  registered : t.registered tx d = true -> s.registered tx c = true

theorem Lasts.gone {tx : Nat} {c d : PacketChannel} (h : Lasts s t tx c d)
    (hgone : s.registered tx c = false) : t.registered tx d = false := by
  rw [← Bool.not_eq_true] at hgone ⊢
  exact fun hregistered => hgone (h.registered hregistered)

theorem lasts_of_same {tx : Nat} {c : PacketChannel}
    (hc : s.channels[tx]? = some c) (hchannels : t.channels = s.channels)
    (hroutes : forall entry, entry ∈ t.router.routes ->
      entry ∈ s.router.routes) : Lasts s t tx c c where
  found := by
    rw [hchannels]
    exact hc
  port := rfl
  sent := rfl
  due := rfl
  alive := fun h => h
  registered := registered_of_subset hroutes rfl

theorem lasts_modify {tx ty : Nat} {c : PacketChannel}
    (hc : s.channels[tx]? = some c) {f : PacketChannel -> PacketChannel}
    (hport : (f c).port = c.port) (hsent : (f c).sent = c.sent)
    (hdue : (f c).due = c.due)
    (halive : (f c).receiverAlive = true -> c.receiverAlive = true) :
    Lasts s { s with channels := s.channels.modify ty f } tx c
      (if ty = tx then f c else c) where
  found := by
    show (s.channels.modify ty f)[tx]? = _
    rw [List.getElem?_modify, hc]
    rfl
  port := by
    split
    · exact hport
    · rfl
  sent := by
    split
    · exact hsent
    · rfl
  due := by
    split
    · exact hdue
    · rfl
  alive := by
    split
    · exact halive
    · exact fun h => h
  registered := by
    apply registered_of_subset
    · exact fun _ h => h
    · split
      · exact hport
      · rfl

theorem lasts_register {tx : Nat} {c : PacketChannel}
    (hc : s.channels[tx]? = some c) : Lasts s s.register tx c c := by
  have hlength := (List.getElem?_eq_some_iff.mp hc).fst
  rcases register_cases s with ⟨hroutes, hchannels⟩ |
    ⟨port, _, _, hroutes, hchannels⟩
  · apply lasts_of_same hc hchannels
    intro entry hentry
    rw [hroutes] at hentry
    exact (mem_cleanupDead.mp hentry).left
  · refine ⟨?_, rfl, rfl, rfl, fun h => h, ?_⟩
    · rw [hchannels, List.getElem?_append_left hlength]
      exact hc
    · apply registered_of_routes _ rfl
      intro entry hentry htx
      rw [hroutes] at hentry
      rcases List.mem_cons.mp hentry with rfl | hentry
      · change s.channels.length = tx at htx
        omega
      · exact ⟨entry, (mem_cleanupDead.mp hentry).left, rfl, rfl⟩

theorem lasts_attachConn {tx : Nat} {c : PacketChannel}
    (hc : s.channels[tx]? = some c) (sourcePort : UInt16) (conn : Nat) :
    Lasts s { s with router := s.router.attachConn sourcePort conn } tx c c := by
  refine ⟨hc, rfl, rfl, rfl, fun h => h, ?_⟩
  apply registered_of_routes _ rfl
  intro entry hentry _
  rcases List.mem_map.mp hentry with ⟨old, hmem, heq⟩
  refine ⟨old, hmem, ?_, ?_⟩
  · rw [← heq]
    split
    · rfl
    · rfl
  · rw [← heq]
    split
    · rfl
    · rfl

def Action.reads : Action -> Bool
  | .readPacket _ => true
  | _ => false

theorem step_lasts {tx : Nat} {c : PacketChannel}
    (hc : s.channels[tx]? = some c) {a : Action} (ha : a.reads = false)
    (hstep : step s a = some t) :
    exists d, Lasts s t tx c d ∧
      (d.taken = c.taken ∨
        a = .take tx ∧ d.taken = min (c.taken + 1) c.sent.length) := by
  cases a with
  | register =>
      cases hstep
      exact ⟨c, lasts_register hc, Or.inl rfl⟩
  | unregister port =>
      cases hstep
      exact ⟨c, lasts_of_same hc rfl fun _ h => (mem_unregister.mp h).left,
        Or.inl rfl⟩
  | attachConn sourcePort conn =>
      cases hstep
      exact ⟨c, lasts_attachConn hc sourcePort conn, Or.inl rfl⟩
  | clear =>
      cases hstep
      exact ⟨c, lasts_of_same hc rfl (List.forall_mem_nil _), Or.inl rfl⟩
  | dropReceiver ty =>
      cases hstep
      refine ⟨_, lasts_modify hc rfl rfl rfl nofun, Or.inl ?_⟩
      split
      · rfl
      · rfl
  | take ty =>
      cases hstep
      refine ⟨_, lasts_modify hc rfl rfl rfl fun h => h, ?_⟩
      by_cases hsame : ty = tx
      · rw [if_pos hsame, hsame]
        exact Or.inr ⟨rfl, rfl⟩
      · rw [if_neg hsame]
        exact Or.inl rfl
  | readPacket packet => cases ha
  | finishRoute =>
      rcases Option.map_eq_some_iff.mp hstep with ⟨port, _, rfl⟩
      exact ⟨c, lasts_of_same hc rfl fun _ h => (mem_unregister.mp h).left,
        Or.inl rfl⟩
  | readFailed =>
      rcases Machine.of_disabled_if hstep with ⟨_, hcleared⟩
      cases hcleared
      exact ⟨c, lasts_of_same hc rfl (List.forall_mem_nil _), Or.inl rfl⟩

theorem channel_of_length {tx : Nat} {d : PacketChannel}
    (hd : t.channels[tx]? = some d)
    (hlength : t.channels.length = s.channels.length) :
    exists c, s.channels[tx]? = some c := by
  have hlt := (List.getElem?_eq_some_iff.mp hd).fst
  rw [hlength] at hlt
  exact ⟨_, List.getElem?_eq_getElem hlt⟩

theorem channel_before {a : Action} (ha : a.reads = false)
    (hstep : step s a = some t) {tx : Nat} {d : PacketChannel}
    (hd : t.channels[tx]? = some d) :
    (exists c, s.channels[tx]? = some c) ∨
      (a = .register ∧ tx = s.channels.length ∧ d = { port := d.port }) := by
  cases a with
  | register =>
      cases hstep
      rcases register_cases s with ⟨_, hchannels⟩ | ⟨port, _, _, _, hchannels⟩
      · rw [hchannels] at hd
        exact Or.inl ⟨d, hd⟩
      · rw [hchannels] at hd
        rcases Nat.lt_or_ge tx s.channels.length with hlt | hge
        · exact Or.inl ⟨_, List.getElem?_eq_getElem hlt⟩
        · rw [List.getElem?_append_right hge] at hd
          rcases List.getElem?_eq_some_iff.mp hd with ⟨hlt, hnew⟩
          have hzero : tx - s.channels.length = 0 :=
            Nat.lt_one_iff.mp hlt
          refine Or.inr ⟨rfl, by omega, ?_⟩
          rw [← hnew]
          simp only [hzero]
          rfl
  | readPacket packet => cases ha
  | finishRoute =>
      rcases Option.map_eq_some_iff.mp hstep with ⟨port, _, rfl⟩
      exact Or.inl ⟨d, hd⟩
  | readFailed =>
      rcases Machine.of_disabled_if hstep with ⟨_, hcleared⟩
      cases hcleared
      exact Or.inl ⟨d, hd⟩
  | _ =>
      cases hstep
      exact Or.inl (channel_of_length hd (by simp))

theorem route_length {packet : UsbDevicePacket}
    (hstep : s.route packet = some t) :
    t.channels.length = s.channels.length := by
  unfold route at hstep
  simp only at hstep
  split at hstep
  · cases hstep
    rfl
  · split at hstep
    · cases hstep
      rfl
    · rcases Machine.of_enabled_if hstep with ⟨_, hsent⟩
      cases hsent
      exact List.length_modify _ _ _

theorem readPacket_length {packet : UsbDevicePacket}
    (hstep : s.readPacket packet = some t) :
    t.channels.length = s.channels.length := by
  rcases Machine.of_disabled_if hstep with ⟨_, hdispatch⟩
  have howe : (s.owe packet).channels.length = s.channels.length :=
    List.length_mapIdx
  rw [← howe]
  unfold dispatch at hdispatch
  split at hdispatch
  · split at hdispatch
    · cases hdispatch
      rfl
    · exact route_length hdispatch
  · exact route_length hdispatch

theorem isDue_eq (s : Demux) (packet : UsbDevicePacket) (tx : Nat)
    (c : PacketChannel) :
    s.isDue packet tx c =
      (isFor packet c.port && (c.receiverAlive && s.registered tx c)) := by
  unfold isDue
  rw [Bool.and_assoc]

theorem not_isDue_of_nobody (h : Invariant s) {packet : UsbDevicePacket}
    {hdr : TcpHeader} (hhdr : packet.tcpHdr = some hdr)
    (hnobody : forall entry, s.router.get hdr.destinationPort = some entry ->
      s.alive entry.tx = false) {tx : Nat} {c : PacketChannel}
    (hc : s.channels[tx]? = some c) : s.isDue packet tx c = false := by
  have hdestination : (packet.tcpHdr.elim 0 fun h => h.destinationPort) =
      hdr.destinationPort := by
    rw [hhdr]
    rfl
  cases hdue : s.isDue packet tx c with
  | false => rfl
  | true =>
      cases hget : s.router.get hdr.destinationPort with
      | none =>
          rw [← hdestination] at hget
          rw [not_isDue_of_get_none hget] at hdue
          cases hdue
      | some entry =>
          have hdead := hnobody entry hget
          rw [← hdestination] at hget
          rcases tx_of_isDue h hget hdue with ⟨htx, halive⟩
          rw [htx, alive_iff hc, halive] at hdead
          cases hdead

structure Reads (s t : Demux) (packet : UsbDevicePacket) (tx : Nat)
    (c d : PacketChannel) : Prop where
  found : t.channels[tx]? = some d
  port : d.port = c.port
  taken : d.taken = c.taken
  due : d.due = c.due ++ if s.isDue packet tx c then [packet] else []
  alive : d.receiverAlive = c.receiverAlive
  registered : t.registered tx d = true -> s.registered tx c = true

theorem Reads.gone {packet : UsbDevicePacket} {tx : Nat} {c d : PacketChannel}
    (h : Reads s t packet tx c d) (hgone : s.registered tx c = false) :
    t.registered tx d = false := by
  rw [← Bool.not_eq_true] at hgone ⊢
  exact fun hregistered => hgone (h.registered hregistered)

theorem reads_of_same {packet : UsbDevicePacket} {tx : Nat} {c : PacketChannel}
    (hc : s.channels[tx]? = some c) (hnot : s.isDue packet tx c = false)
    (hchannels : t.channels = s.channels)
    (hroutes : forall entry, entry ∈ t.router.routes ->
      entry ∈ s.router.routes) : Reads s t packet tx c c where
  found := by
    rw [hchannels]
    exact hc
  port := rfl
  taken := rfl
  due := by
    rw [hnot]
    exact (List.append_nil _).symm
  alive := rfl
  registered := registered_of_subset hroutes rfl

theorem reads_of_live (h : Invariant s) {packet : UsbDevicePacket}
    {hdr : TcpHeader} {entry : PacketEntry}
    (hhdr : packet.tcpHdr = some hdr) (hrst : hdr.rst = false)
    (hget : s.router.get hdr.destinationPort = some entry)
    (halive : s.alive entry.tx = true) {tx : Nat} {c : PacketChannel}
    (hc : s.channels[tx]? = some c) :
    exists d, Reads s
      { s with
        channels := s.channels.modify entry.tx fun c =>
          (c.owe packet).push packet } packet tx c d := by
  have hfound : (s.channels.modify entry.tx fun c =>
      (c.owe packet).push packet)[tx]? =
        some (if entry.tx = tx then (c.owe packet).push packet else c) := by
    rw [List.getElem?_modify, hc]
    rfl
  by_cases htx : entry.tx = tx
  · rw [if_pos htx] at hfound
    have hdue : s.isDue packet tx c = true := by
      subst htx
      exact isDue_of_get h hhdr hrst hget halive hc
    refine ⟨_, hfound, rfl, rfl, ?_, rfl,
      registered_of_subset (fun _ h => h) rfl⟩
    rw [hdue]
    rfl
  · rw [if_neg htx] at hfound
    have hnot : s.isDue packet tx c = false := by
      have hget' : s.router.get
          (packet.tcpHdr.elim 0 fun h => h.destinationPort) = some entry := by
        rw [hhdr]
        exact hget
      cases hdue : s.isDue packet tx c with
      | false => rfl
      | true => exact absurd (tx_of_isDue h hget' hdue).left htx
    refine ⟨_, hfound, rfl, rfl, ?_, rfl,
      registered_of_subset (fun _ h => h) rfl⟩
    rw [hnot]
    exact (List.append_nil _).symm

theorem readPacket_reads (h : Invariant s) {packet : UsbDevicePacket}
    (hstep : s.readPacket packet = some t) {tx : Nat} {c : PacketChannel}
    (hc : s.channels[tx]? = some c) : exists d, Reads s t packet tx c d := by
  rcases Machine.of_disabled_if hstep with ⟨_, hdispatch⟩
  cases hhdr : packet.tcpHdr with
  | none =>
      rw [dispatch_of_none h hhdr] at hdispatch
      cases hdispatch
      exact ⟨c, reads_of_same hc (not_isDue_of_none hhdr tx c) rfl
        fun _ h => h⟩
  | some hdr =>
      cases hrst : hdr.rst with
      | true =>
          rw [dispatch_of_rst hhdr hrst] at hdispatch
          cases hdispatch
          exact ⟨c, reads_of_same hc (not_isDue_of_rst hhdr hrst tx c) rfl
            fun _ h => (mem_unregister.mp h).left⟩
      | false =>
          by_cases hlive : exists entry,
              s.router.get hdr.destinationPort = some entry ∧
                s.alive entry.tx = true
          · rcases hlive with ⟨entry, hget, halive⟩
            rw [dispatch_of_live h hhdr hrst hget halive hdispatch]
            exact reads_of_live h hhdr hrst hget halive hc
          · have hnobody : forall entry,
                s.router.get hdr.destinationPort = some entry ->
                  s.alive entry.tx = false := by
              intro entry hget
              cases halive : s.alive entry.tx with
              | false => rfl
              | true => exact absurd ⟨entry, hget, halive⟩ hlive
            rcases dispatch_of_nobody h hhdr hrst hnobody hdispatch with
              ⟨hrouter, hchannels⟩
            refine ⟨c, reads_of_same hc (not_isDue_of_nobody h hhdr hnobody hc)
              hchannels ?_⟩
            rw [hrouter]
            exact fun _ h => h

end Demux
end Device
end Rusbmux
