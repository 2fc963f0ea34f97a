import Mathlib.Data.List.Infix
import Rusbmux.Device.PacketRouter

/-!
# Demultiplexing packets

No two registrations in the routes share a port, no port is zero, and what is on
a channel is what was read for it while its registration was in the routes and
its receiver alive.  The uniqueness of the ports does not depend on how often
`next_source_port` wraps around: `register` only takes a port without an entry.
-/

namespace Rusbmux
namespace Device

open Foundation
open Rusbmux.Parser

namespace PacketRouter

theorem mem_of_get {r : PacketRouter} {port : UInt16} {entry : PacketEntry}
    (h : r.get port = some entry) : entry ∈ r.routes ∧ entry.port = port := by
  have hport := List.find?_some h
  exact ⟨List.mem_of_find?_eq_some h, of_decide_eq_true hport⟩

theorem not_mem_of_get {r : PacketRouter} {port : UInt16}
    (h : r.get port = none) {entry : PacketEntry} (hmem : entry ∈ r.routes) :
    entry.port ≠ port := by
  intro hport
  exact absurd (decide_eq_true hport) (List.find?_eq_none.mp h entry hmem)

theorem get_attachConn (r : PacketRouter) (port sourcePort : UInt16)
    (conn : Nat) :
    (r.attachConn sourcePort conn).get port =
      (r.get port).map fun entry =>
        if entry.port = sourcePort then { entry with conn := some conn }
        else entry := by
  unfold attachConn get
  rw [List.find?_map]
  apply congrArg (fun found => Option.map _ found)
  apply congrArg (fun p => r.routes.find? p)
  funext entry
  simp only [Function.comp]
  split
  · rfl
  · rfl

theorem probe_spec (tx probes : Nat) (r : PacketRouter) :
    match (probe tx probes r).snd with
    | none => (probe tx probes r).fst.routes = r.routes
    | some port => port ≠ 0 ∧ r.get port = none ∧
        (probe tx probes r).fst.routes =
          { port := port, tx := tx } :: r.routes := by
  induction probes generalizing r with
  | zero => rfl
  | succ probes ih =>
      unfold probe
      simp only
      cases hget : get { r with nextSourcePort := r.nextSourcePort + 1 }
          (if r.nextSourcePort = 0 then 1 else r.nextSourcePort) with
      | some entry => exact ih { r with nextSourcePort := r.nextSourcePort + 1 }
      | none =>
          refine ⟨?_, hget, rfl⟩
          split
          · decide
          · rename_i hne
            exact hne

end PacketRouter

namespace Demux

variable {s t : Demux}

def IsRegistered (s : Demux) (tx : Nat) (c : PacketChannel) : Prop :=
  s.channels[tx]? = some c ∧ s.registered tx c = true

structure Demultiplexes (s : Demux) : Prop where
  ports_distinct : forall tx ty c d, s.IsRegistered tx c ->
    s.IsRegistered ty d -> c.port = d.port -> tx = ty
  port_ne_zero : forall entry, entry ∈ s.router.routes -> entry.port ≠ 0
  delivered : forall c, c ∈ s.channels -> c.sent = c.due

/--
`register` keeps every entry whose receiver is alive and every channel, a packet
without a TCP header reaches nobody, and an RST removes the entry of its port.
-/
def StepExact (s : Demux) (a : Action) (t : Demux) : Prop :=
  match a with
  | .register =>
      (forall entry, entry ∈ s.router.routes -> s.alive entry.tx = true ->
        entry ∈ t.router.routes) ∧
      s.channels <+: t.channels
  | .readPacket packet =>
      (packet.tcpHdr = none -> t = s) ∧
      forall h, packet.tcpHdr = some h -> h.rst = true ->
        t.channels = s.channels ∧ forall entry, entry ∈ t.router.routes <->
          entry ∈ s.router.routes ∧ entry.port ≠ h.destinationPort
  | _ => True

/-!
## The routes and the channels
-/

structure Invariant (s : Demux) : Prop where
  unique : forall d e, d ∈ s.router.routes -> e ∈ s.router.routes ->
    d.port = e.port -> d = e
  owned : forall entry, entry ∈ s.router.routes -> entry.port ≠ 0 ∧
    exists c, s.channels[entry.tx]? = some c ∧ c.port = entry.port
  delivered : forall c, c ∈ s.channels -> c.sent = c.due

theorem registered_iff {tx : Nat} {c : PacketChannel} :
    s.registered tx c = true <->
      exists entry, entry ∈ s.router.routes ∧ entry.port = c.port ∧
        entry.tx = tx := by
  unfold registered
  rw [List.any_eq_true]
  constructor
  · intro h
    rcases h with ⟨entry, hmem, hboth⟩
    rcases Bool.and_eq_true_iff.mp hboth with ⟨hport, htx⟩
    exact ⟨entry, hmem, of_decide_eq_true hport, of_decide_eq_true htx⟩
  · intro h
    rcases h with ⟨entry, hmem, hport, htx⟩
    exact ⟨entry, hmem, Bool.and_eq_true_iff.mpr
      ⟨decide_eq_true hport, decide_eq_true htx⟩⟩

theorem Invariant.demultiplexes (h : Invariant s) : s.Demultiplexes where
  ports_distinct := by
    intro tx ty c d hc hd hports
    rcases registered_iff.mp hc.right with ⟨e, he, heport, hetx⟩
    rcases registered_iff.mp hd.right with ⟨f, hf, hfport, hftx⟩
    have hsame := h.unique e f he hf
      (heport.trans (hports.trans hfport.symm))
    rw [← hetx, ← hftx, hsame]
  port_ne_zero := fun entry hentry => (h.owned entry hentry).left
  delivered := h.delivered

theorem Invariant.init : Invariant {} where
  unique := fun _ _ hd => nomatch hd
  owned := fun _ hentry => nomatch hentry
  delivered := fun _ hc => nomatch hc

theorem Invariant.of_routes (h : Invariant s)
    (hroutes : forall entry, entry ∈ t.router.routes ->
      entry ∈ s.router.routes) (hchannels : t.channels = s.channels) :
    Invariant t where
  unique := fun d e hd he => h.unique d e (hroutes d hd) (hroutes e he)
  owned := by
    rw [hchannels]
    exact fun entry hentry => h.owned entry (hroutes entry hentry)
  delivered := by
    rw [hchannels]
    exact h.delivered

theorem mem_unregister {r : PacketRouter} {port : UInt16}
    {entry : PacketEntry} :
    entry ∈ (r.unregister port).routes <->
      entry ∈ r.routes ∧ entry.port ≠ port := by
  simp [PacketRouter.unregister]

theorem invariant_unregister (h : Invariant s) (port : UInt16)
    (hrouter : t.router = s.router.unregister port)
    (hchannels : t.channels = s.channels) : Invariant t := by
  apply h.of_routes _ hchannels
  intro entry hentry
  rw [hrouter] at hentry
  exact (mem_unregister.mp hentry).left

theorem invariant_attachConn (h : Invariant s) (sourcePort : UInt16)
    (conn : Nat) :
    Invariant { s with router := s.router.attachConn sourcePort conn } := by
  have hold : forall entry,
      entry ∈ (s.router.attachConn sourcePort conn).routes ->
        exists old, old ∈ s.router.routes ∧ old.port = entry.port ∧
          old.tx = entry.tx ∧
          entry = if old.port = sourcePort then { old with conn := some conn }
            else old := by
    intro entry hentry
    rcases List.mem_map.mp hentry with ⟨old, hmem, heq⟩
    subst heq
    refine ⟨old, hmem, ?_, ?_, rfl⟩
    · split
      · rfl
      · rfl
    · split
      · rfl
      · rfl
  constructor
  · intro d e hd he hports
    rcases hold d hd with ⟨d', hd', hdport, _, hdeq⟩
    rcases hold e he with ⟨e', he', heport, _, heeq⟩
    have hsame := h.unique d' e' hd' he'
      (hdport.trans (hports.trans heport.symm))
    rw [hdeq, heeq, hsame]
  · intro entry hentry
    rcases hold entry hentry with ⟨old, hmem, hport, htx, _⟩
    rw [← hport, ← htx]
    exact h.owned old hmem
  · exact h.delivered

theorem mem_modify {channels : List PacketChannel} {tx : Nat}
    {f : PacketChannel -> PacketChannel} {d : PacketChannel}
    (h : d ∈ channels.modify tx f) :
    exists c, c ∈ channels ∧ (d = c ∨ d = f c) := by
  rcases List.mem_iff_getElem?.mp h with ⟨ty, hty⟩
  rw [List.getElem?_modify] at hty
  rcases Option.map_eq_some_iff.mp hty with ⟨c, hc, hd⟩
  refine ⟨c, List.mem_of_getElem? hc, ?_⟩
  subst hd
  split
  · exact Or.inr rfl
  · exact Or.inl rfl

theorem Invariant.modify (h : Invariant s) (tx : Nat)
    {f : PacketChannel -> PacketChannel}
    (hport : forall c, (f c).port = c.port)
    (hexact : forall c, c.sent = c.due -> (f c).sent = (f c).due) :
    Invariant { s with channels := s.channels.modify tx f } where
  unique := h.unique
  owned := by
    intro entry hentry
    rcases h.owned entry hentry with ⟨hne, c, hc, hcport⟩
    refine ⟨hne, if tx = entry.tx then f c else c, ?_, ?_⟩
    · show (s.channels.modify tx f)[entry.tx]? = _
      rw [List.getElem?_modify, hc]
      rfl
    · split
      · rw [hport, hcport]
      · exact hcport
  delivered := by
    intro d hd
    rcases mem_modify hd with ⟨c, hc, rfl | rfl⟩
    · exact h.delivered d hc
    · exact hexact c (h.delivered c hc)

/-!
## Registering
-/

theorem mem_cleanupDead {r : PacketRouter} {alive : Nat -> Bool}
    {entry : PacketEntry} :
    entry ∈ (r.cleanupDead alive).routes <->
      entry ∈ r.routes ∧ alive entry.tx = true := by
  simp [PacketRouter.cleanupDead]

theorem register_cases (s : Demux) :
    (s.register.router.routes = (s.router.cleanupDead s.alive).routes ∧
        s.register.channels = s.channels) ∨
      exists port, port ≠ 0 ∧
        (s.router.cleanupDead s.alive).get port = none ∧
        s.register.router.routes =
          { port := port, tx := s.channels.length } ::
            (s.router.cleanupDead s.alive).routes ∧
        s.register.channels = s.channels ++ [{ port := port }] := by
  have hspec := PacketRouter.probe_spec s.channels.length
    PacketRouter.maxSourcePortProbes (s.router.cleanupDead s.alive)
  unfold register
  cases hprobe : PacketRouter.probe s.channels.length
      PacketRouter.maxSourcePortProbes (s.router.cleanupDead s.alive) with
  | mk router result =>
      rw [hprobe] at hspec
      cases result with
      | none => exact Or.inl ⟨hspec, rfl⟩
      | some port =>
          rcases hspec with ⟨hne, hget, hroutes⟩
          exact Or.inr ⟨port, hne, hget, hroutes, rfl⟩

theorem invariant_register (h : Invariant s) : Invariant s.register := by
  rcases register_cases s with ⟨hroutes, hchannels⟩ |
    ⟨port, hne, hget, hroutes, hchannels⟩
  · apply h.of_routes _ hchannels
    intro entry hentry
    rw [hroutes] at hentry
    exact (mem_cleanupDead.mp hentry).left
  · constructor
    · intro d e hd he hports
      rw [hroutes] at hd he
      rcases List.mem_cons.mp hd with rfl | hd
      · rcases List.mem_cons.mp he with rfl | he
        · rfl
        · exact absurd hports.symm (PacketRouter.not_mem_of_get hget he)
      · rcases List.mem_cons.mp he with rfl | he
        · exact absurd hports (PacketRouter.not_mem_of_get hget hd)
        · exact h.unique d e (mem_cleanupDead.mp hd).left
            (mem_cleanupDead.mp he).left hports
    · intro entry hentry
      rw [hroutes] at hentry
      rw [hchannels]
      rcases List.mem_cons.mp hentry with rfl | hentry
      · exact ⟨hne, { port := port }, List.getElem?_concat_length, rfl⟩
      · rcases h.owned entry (mem_cleanupDead.mp hentry).left with
          ⟨hzero, c, hc, hport⟩
        refine ⟨hzero, c, ?_, hport⟩
        rw [List.getElem?_append_left (List.getElem?_eq_some_iff.mp hc).fst]
        exact hc
    · intro c hc
      rw [hchannels] at hc
      rcases List.mem_append.mp hc with hold | hnew
      · exact h.delivered c hold
      · rw [List.mem_singleton.mp hnew]

theorem register_stepExact (s : Demux) :
    StepExact s .register s.register := by
  rcases register_cases s with ⟨hroutes, hchannels⟩ |
    ⟨port, _, _, hroutes, hchannels⟩
  · constructor
    · intro entry hentry halive
      rw [hroutes]
      exact mem_cleanupDead.mpr ⟨hentry, halive⟩
    · rw [hchannels]
  · constructor
    · intro entry hentry halive
      rw [hroutes]
      exact List.mem_cons_of_mem _ (mem_cleanupDead.mpr ⟨hentry, halive⟩)
    · rw [hchannels]
      exact List.prefix_append _ _

/-!
## Reading a packet
-/

def isDue (s : Demux) (packet : UsbDevicePacket) (tx : Nat)
    (c : PacketChannel) : Bool :=
  isFor packet c.port && c.receiverAlive && s.registered tx c

theorem getElem?_owe (s : Demux) (packet : UsbDevicePacket) (tx : Nat) :
    (s.owe packet).channels[tx]? = (s.channels[tx]?).map fun c =>
      if s.isDue packet tx c then c.owe packet else c :=
  List.getElem?_mapIdx

theorem owe_eq_self {packet : UsbDevicePacket}
    (h : forall tx c, s.channels[tx]? = some c ->
      s.isDue packet tx c = false) : s.owe packet = s := by
  have hchannels : (s.owe packet).channels = s.channels := by
    apply List.ext_getElem?
    intro tx
    rw [getElem?_owe]
    cases hc : s.channels[tx]? with
    | none => rfl
    | some c =>
        rw [Option.map_some, h tx c hc]
        rfl
  show { s with channels := (s.owe packet).channels } = s
  rw [hchannels]

theorem not_isDue_of_rst {packet : UsbDevicePacket} {h : TcpHeader}
    (hhdr : packet.tcpHdr = some h) (hrst : h.rst = true) (tx : Nat)
    (c : PacketChannel) : s.isDue packet tx c = false := by
  unfold isDue isFor
  rw [hhdr]
  simp [hrst]

theorem not_isDue_of_none {packet : UsbDevicePacket}
    (hhdr : packet.tcpHdr = none) (tx : Nat) (c : PacketChannel) :
    s.isDue packet tx c = false := by
  unfold isDue isFor
  rw [hhdr]
  rfl

theorem entry_of_isDue {packet : UsbDevicePacket} {tx : Nat}
    {c : PacketChannel} (hdue : s.isDue packet tx c = true) :
    exists h entry, packet.tcpHdr = some h ∧ h.destinationPort = entry.port ∧
      entry ∈ s.router.routes ∧ entry.tx = tx ∧ c.receiverAlive = true := by
  unfold isDue at hdue
  rcases Bool.and_eq_true_iff.mp hdue with ⟨hboth, hregistered⟩
  rcases Bool.and_eq_true_iff.mp hboth with ⟨hfor, halive⟩
  rcases registered_iff.mp hregistered with ⟨entry, hmem, hport, htx⟩
  unfold isFor at hfor
  cases hhdr : packet.tcpHdr with
  | none =>
      rw [hhdr] at hfor
      cases hfor
  | some h =>
      rw [hhdr] at hfor
      have hdestination :=
        of_decide_eq_true (Bool.and_eq_true_iff.mp hfor).right
      exact ⟨h, entry, rfl, hdestination.trans hport.symm, hmem, htx, halive⟩

theorem not_isDue_of_get_none {packet : UsbDevicePacket}
    (hget : s.router.get
      (packet.tcpHdr.elim 0 fun h => h.destinationPort) = none)
    (tx : Nat) (c : PacketChannel) : s.isDue packet tx c = false := by
  cases hdue : s.isDue packet tx c with
  | false => rfl
  | true =>
      rcases entry_of_isDue hdue with ⟨h, entry, hhdr, hport, hmem, _, _⟩
      rw [hhdr] at hget
      exact absurd hport.symm (PacketRouter.not_mem_of_get hget hmem)

theorem tx_of_isDue (h : Invariant s) {packet : UsbDevicePacket}
    {entry : PacketEntry}
    (hget : s.router.get
      (packet.tcpHdr.elim 0 fun h => h.destinationPort) = some entry)
    {tx : Nat} {c : PacketChannel} (hdue : s.isDue packet tx c = true) :
    entry.tx = tx ∧ c.receiverAlive = true := by
  rcases entry_of_isDue hdue with ⟨hdr, e, hhdr, hport, hmem, htx, halive⟩
  rw [hhdr] at hget
  rcases PacketRouter.mem_of_get hget with ⟨hentry, hentryPort⟩
  rw [h.unique entry e hentry hmem (hentryPort.trans hport)]
  exact ⟨htx, halive⟩

theorem alive_iff {tx : Nat} {c : PacketChannel}
    (hc : s.channels[tx]? = some c) :
    s.alive tx = c.receiverAlive := by
  unfold alive
  rw [hc]
  rfl

theorem isDue_of_get (h : Invariant s) {packet : UsbDevicePacket}
    {hdr : TcpHeader} {entry : PacketEntry}
    (hhdr : packet.tcpHdr = some hdr) (hrst : hdr.rst = false)
    (hget : s.router.get hdr.destinationPort = some entry)
    (halive : s.alive entry.tx = true) {c : PacketChannel}
    (hc : s.channels[entry.tx]? = some c) :
    s.isDue packet entry.tx c = true := by
  rcases PacketRouter.mem_of_get hget with ⟨hmem, hport⟩
  rcases h.owned entry hmem with ⟨_, d, hd, hdport⟩
  cases hc.symm.trans hd
  have hregistered : s.registered entry.tx c = true :=
    registered_iff.mpr ⟨entry, hmem, hdport.symm, rfl⟩
  have hdestination : hdr.destinationPort = c.port :=
    (hdport.trans hport).symm
  unfold isDue isFor
  rw [hhdr, hregistered, ← alive_iff hc, halive]
  simp [hrst, hdestination]

theorem owe_eq_modify (h : Invariant s) {packet : UsbDevicePacket}
    {hdr : TcpHeader} {entry : PacketEntry}
    (hhdr : packet.tcpHdr = some hdr) (hrst : hdr.rst = false)
    (hget : s.router.get hdr.destinationPort = some entry)
    (halive : s.alive entry.tx = true) :
    s.owe packet =
      { s with
        channels := s.channels.modify entry.tx fun c => c.owe packet } := by
  have hchannels : (s.owe packet).channels =
      s.channels.modify entry.tx fun c => c.owe packet := by
    apply List.ext_getElem?
    intro tx
    rw [getElem?_owe, List.getElem?_modify]
    cases hc : s.channels[tx]? with
    | none => rfl
    | some c =>
        have hget' : s.router.get
            (packet.tcpHdr.elim 0 fun h => h.destinationPort) =
              some entry := by
          rw [hhdr]
          exact hget
        by_cases htx : entry.tx = tx
        · subst htx
          rw [Option.map_some, isDue_of_get h hhdr hrst hget halive hc]
          simp
        · have hnot : s.isDue packet tx c = false := by
            cases hdue : s.isDue packet tx c with
            | false => rfl
            | true => exact absurd (tx_of_isDue h hget' hdue).left htx
          rw [Option.map_some, hnot]
          simp [htx]
  show { s with channels := (s.owe packet).channels } = _
  rw [hchannels]

theorem route_of_get {packet : UsbDevicePacket} {entry : PacketEntry}
    (hget : s.router.get
      (packet.tcpHdr.elim 0 fun h => h.destinationPort) = some entry) :
    s.route packet =
      if !s.alive entry.tx then
        some { s with
          unregistering :=
            some (packet.tcpHdr.elim 0 fun h => h.destinationPort) }
      else if s.hasRoom entry.tx then
        some { s with
          channels := s.channels.modify entry.tx fun c => c.push packet }
      else none := by
  unfold route
  simp only [hget]

theorem route_of_get_none {packet : UsbDevicePacket}
    (hget : s.router.get
      (packet.tcpHdr.elim 0 fun h => h.destinationPort) = none) :
    s.route packet = some s := by
  unfold route
  simp only [hget]

theorem get_zero (h : Invariant s) : s.router.get 0 = none := by
  cases hget : s.router.get 0 with
  | none => rfl
  | some entry =>
      rcases PacketRouter.mem_of_get hget with ⟨hmem, hport⟩
      exact absurd hport (h.owned entry hmem).left

theorem dispatch_of_none (h : Invariant s) {packet : UsbDevicePacket}
    (hhdr : packet.tcpHdr = none) :
    (s.owe packet).dispatch packet = some s := by
  rw [owe_eq_self fun tx c _ => not_isDue_of_none hhdr tx c]
  unfold dispatch
  simp only [hhdr]
  apply route_of_get_none
  rw [hhdr]
  exact get_zero h

theorem dispatch_of_rst {packet : UsbDevicePacket} {hdr : TcpHeader}
    (hhdr : packet.tcpHdr = some hdr) (hrst : hdr.rst = true) :
    (s.owe packet).dispatch packet =
      some { s with router := s.router.unregister hdr.destinationPort } := by
  rw [owe_eq_self fun tx c _ => not_isDue_of_rst hhdr hrst tx c]
  unfold dispatch
  simp only [hhdr, hrst, if_true]

theorem dispatch_of_nobody (h : Invariant s) {packet : UsbDevicePacket}
    {hdr : TcpHeader} (hhdr : packet.tcpHdr = some hdr)
    (hrst : hdr.rst = false)
    (hnobody : forall entry, s.router.get hdr.destinationPort = some entry ->
      s.alive entry.tx = false)
    (hstep : (s.owe packet).dispatch packet = some t) :
    t.router = s.router ∧ t.channels = s.channels := by
  have hdestination : (packet.tcpHdr.elim 0 fun h => h.destinationPort) =
      hdr.destinationPort := by
    rw [hhdr]
    rfl
  have hnot : forall tx c, s.channels[tx]? = some c ->
      s.isDue packet tx c = false := by
    intro tx c hc
    cases hdue : s.isDue packet tx c with
    | false => rfl
    | true =>
        cases hget : s.router.get hdr.destinationPort with
        | none =>
            rw [not_isDue_of_get_none (by rw [hdestination]; exact hget)] at hdue
            cases hdue
        | some entry =>
            rcases tx_of_isDue h (by rw [hdestination]; exact hget) hdue with
              ⟨htx, halive⟩
            have hdead := hnobody entry hget
            rw [htx, alive_iff hc, halive] at hdead
            cases hdead
  rw [owe_eq_self hnot] at hstep
  unfold dispatch at hstep
  simp only [hhdr, hrst, Bool.false_eq_true, if_false] at hstep
  cases hget : s.router.get hdr.destinationPort with
  | none =>
      rw [route_of_get_none (by rw [hdestination]; exact hget)] at hstep
      cases hstep
      exact ⟨rfl, rfl⟩
  | some entry =>
      rw [route_of_get (by rw [hdestination]; exact hget),
        hnobody entry hget] at hstep
      cases hstep
      exact ⟨rfl, rfl⟩

theorem dispatch_of_live (h : Invariant s) {packet : UsbDevicePacket}
    {hdr : TcpHeader} {entry : PacketEntry}
    (hhdr : packet.tcpHdr = some hdr) (hrst : hdr.rst = false)
    (hget : s.router.get hdr.destinationPort = some entry)
    (halive : s.alive entry.tx = true)
    (hstep : (s.owe packet).dispatch packet = some t) :
    t = { s with
      channels := s.channels.modify entry.tx fun c =>
        (c.owe packet).push packet } := by
  let u : Demux :=
    { s with channels := s.channels.modify entry.tx fun c => c.owe packet }
  have hget' : u.router.get
      (packet.tcpHdr.elim 0 fun h => h.destinationPort) = some entry := by
    rw [hhdr]
    exact hget
  have halive' : u.alive entry.tx = true := by
    show Option.any _ (s.channels.modify entry.tx _)[entry.tx]? = true
    rw [List.getElem?_modify]
    unfold alive at halive
    cases hc : s.channels[entry.tx]? with
    | none =>
        rw [hc] at halive
        cases halive
    | some c =>
        rw [hc] at halive
        simpa [PacketChannel.owe] using halive
  rw [owe_eq_modify h hhdr hrst hget halive] at hstep
  have hroute : u.route packet = some t := by
    unfold dispatch at hstep
    simp only [hhdr, hrst, Bool.false_eq_true, if_false] at hstep
    exact hstep
  rw [route_of_get hget', halive'] at hroute
  rcases Machine.of_enabled_if hroute with ⟨_, hsent⟩
  cases hsent
  show { u with channels := (s.channels.modify entry.tx _).modify entry.tx _ } =
    _
  rw [List.modify_modify_eq]
  rfl

theorem invariant_dispatch (h : Invariant s) {packet : UsbDevicePacket}
    (hstep : (s.owe packet).dispatch packet = some t) : Invariant t := by
  cases hhdr : packet.tcpHdr with
  | none =>
      rw [dispatch_of_none h hhdr] at hstep
      cases hstep
      exact h
  | some hdr =>
      cases hrst : hdr.rst with
      | true =>
          rw [dispatch_of_rst hhdr hrst] at hstep
          cases hstep
          exact invariant_unregister h _ rfl rfl
      | false =>
          by_cases hlive : exists entry,
              s.router.get hdr.destinationPort = some entry ∧
                s.alive entry.tx = true
          · rcases hlive with ⟨entry, hget, halive⟩
            rw [dispatch_of_live h hhdr hrst hget halive hstep]
            apply h.modify
            · exact fun c => rfl
            · intro c hexact
              show c.sent ++ [packet] = c.due ++ [packet]
              rw [hexact]
          · have hnobody : forall entry,
                s.router.get hdr.destinationPort = some entry ->
                  s.alive entry.tx = false := by
              intro entry hget
              cases halive : s.alive entry.tx with
              | false => rfl
              | true => exact absurd ⟨entry, hget, halive⟩ hlive
            rcases dispatch_of_nobody h hhdr hrst hnobody hstep with
              ⟨hrouter, hchannels⟩
            apply h.of_routes _ hchannels
            rw [hrouter]
            exact fun _ hentry => hentry

theorem dispatch_stepExact (h : Invariant s) {packet : UsbDevicePacket}
    (hstep : (s.owe packet).dispatch packet = some t) :
    StepExact s (.readPacket packet) t := by
  constructor
  · intro hhdr
    rw [dispatch_of_none h hhdr] at hstep
    cases hstep
    rfl
  · intro hdr hhdr hrst
    rw [dispatch_of_rst hhdr hrst] at hstep
    cases hstep
    exact ⟨rfl, fun entry => mem_unregister⟩

/-!
## Runs
-/

theorem invariant_step {a : Action} (h : Invariant s)
    (hstep : step s a = some t) : Invariant t := by
  cases a with
  | register =>
      cases hstep
      exact invariant_register h
  | unregister port =>
      cases hstep
      exact invariant_unregister h port rfl rfl
  | attachConn sourcePort conn =>
      cases hstep
      exact invariant_attachConn h sourcePort conn
  | clear =>
      cases hstep
      exact h.of_routes (fun _ hentry => nomatch hentry) rfl
  | dropReceiver tx =>
      cases hstep
      exact h.modify tx (fun _ => rfl) fun _ hexact => hexact
  | take tx =>
      cases hstep
      exact h.modify tx (fun _ => rfl) fun _ hexact => hexact
  | readPacket packet =>
      rcases Machine.of_disabled_if hstep with ⟨_, hdispatch⟩
      exact invariant_dispatch h hdispatch
  | finishRoute =>
      rcases Option.map_eq_some_iff.mp hstep with ⟨port, _, rfl⟩
      exact invariant_unregister h port rfl rfl
  | readFailed =>
      rcases Machine.of_disabled_if hstep with ⟨_, hcleared⟩
      cases hcleared
      exact h.of_routes (fun _ hentry => nomatch hentry) rfl

theorem step_stepExact {a : Action} (h : Invariant s)
    (hstep : step s a = some t) : StepExact s a t := by
  cases a with
  | register =>
      cases hstep
      exact register_stepExact s
  | readPacket packet =>
      rcases Machine.of_disabled_if hstep with ⟨_, hdispatch⟩
      exact dispatch_stepExact h hdispatch
  | unregister port => exact trivial
  | attachConn sourcePort conn => exact trivial
  | clear => exact trivial
  | dropReceiver tx => exact trivial
  | take tx => exact trivial
  | finishRoute => exact trivial
  | readFailed => exact trivial

/--
Whatever is registered, dropped and read in whatever order: every state
demultiplexes, and every step touches only the routes that it should.
-/
theorem demultiplexes_throughout (actions : List Action) :
    Machine.Throughout step Demultiplexes {} actions ∧
      Machine.Stepwise step StepExact {} actions := by
  constructor
  · intro pre s _ hrun
    exact (Machine.run_invariant (fun _ _ _ => invariant_step)
      Invariant.init hrun).demultiplexes
  · intro pre a s t _ hrun hstep
    exact step_stepExact (Machine.run_invariant (fun _ _ _ => invariant_step)
      Invariant.init hrun) hstep

end Demux

end Device
end Rusbmux
