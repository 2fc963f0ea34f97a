import Rusbmux.Conn.FlowRuns
import Rusbmux.Device.ChannelSteps
import Rusbmux.Handler.Tunnel

/-!
# The way from a device to its clients

The reader loop decodes the bytes of the device and routes the packets to the
channels of the connections, from which the relays take them.  As for the other
way, the parts run together here, in any interleaving.
-/

namespace Rusbmux
namespace Handler

open Foundation
open Rusbmux.Device
open Rusbmux.Parser

structure Downlink where
  demux : Demux := {}
  source : List Chunk
  /-- The packets read so far. -/
  read : List UsbDevicePacket := []
  /-- How many packets were read when a channel was opened. -/
  since : Nat -> Nat := fun _ => 0
  relays : Nat -> Option Relay := fun _ => none
  /-- How many packets were taken off a channel before its relay began. -/
  skipped : Nat -> Nat := fun _ => 0

namespace Downlink

inductive Action where
  | router (action : Demux.Action)
  | readPacket
  | serve (tx : Nat) (conn : UsbDeviceConn)
  | relay (tx : Nat) (action : Relay.Action)

def stepRouter (s : Downlink) (action : Demux.Action) : Option Downlink :=
  match action with
  | .readPacket _ | .readFailed => none
  | .take tx =>
      if (s.relays tx).isSome then none
      else
        (Demux.step s.demux (.take tx)).map fun demux =>
          { s with demux := demux }
  | .register =>
      (Demux.step s.demux .register).map fun demux =>
        { s with
          demux := demux
          since :=
            Function.update s.since s.demux.channels.length s.read.length }
  | action =>
      (Demux.step s.demux action).map fun demux => { s with demux := demux }

def readPacket (E : TcpHeaderReader) (ending : IoError) (s : Downlink) :
    Option Downlink :=
  match (UsbDevicePacket.fromChunks E ending).run s.source with
  | .ok packet rest =>
      (Demux.step s.demux (.readPacket packet)).map fun demux =>
        { s with
          demux := demux
          source := rest
          read := s.read ++ [packet] }
  | .error (.io _) rest =>
      (Demux.step s.demux .readFailed).map fun demux =>
        { s with
          demux := demux
          source := rest }
  | .error _ rest =>
      if s.demux.stopped || s.demux.unregistering.isSome then none
      else some { s with source := rest }
  | .panicked => none

def serve (s : Downlink) (tx : Nat) (conn : UsbDeviceConn) : Option Downlink :=
  match s.demux.channels[tx]?, s.relays tx with
  | some c, none =>
      some { s with
        relays := Function.update s.relays tx (some (Relay.init conn))
        skipped := Function.update s.skipped tx c.taken }
  | _, _ => none

def nextPacket (s : Downlink) (tx : Nat) : Option UsbDevicePacket :=
  s.demux.channels[tx]?.bind fun c => c.sent[c.taken]?

def isDrained (s : Downlink) (tx : Nat) : Bool :=
  s.demux.channels[tx]?.any fun c =>
    decide (c.sent.length <= c.taken) && !s.demux.registered tx c

def stepRelay (s : Downlink) (tx : Nat) (action : Relay.Action) :
    Option Downlink :=
  (s.relays tx).bind fun r =>
    (Relay.step r action).bind fun u =>
      let moved := { s with
        relays := Function.update s.relays tx (some u) }
      match action with
      | .recvPacket packet _ =>
          if s.nextPacket tx = some packet then
            (Demux.step s.demux (.take tx)).map fun demux =>
              { moved with demux := demux }
          else
            none
      | .recvDisconnected => if s.isDrained tx then some moved else none
      | _ => some moved

def step (E : TcpHeaderReader) (ending : IoError) :
    Machine Downlink Action := fun s a =>
  match a with
  | .router action => s.stepRouter action
  | .readPacket => s.readPacket E ending
  | .serve tx conn => s.serve tx conn
  | .relay tx action => s.stepRelay tx action

def start (source : List Chunk) : Downlink where
  source := source

/-- No other branch completes while `recv` holds a packet with a payload. -/
def KeepsResponses (s : Downlink) : Action -> Prop
  | .relay tx action => forall r, s.relays tx = some r -> r.KeepsResponse action
  | .router _ | .readPacket | .serve _ _ => True

/-!
## What is where
-/

def readFor (s : Downlink) (tx : Nat) (c : PacketChannel) :
    List UsbDevicePacket :=
  (s.read.drop (s.since tx)).filter fun packet => Demux.isFor packet c.port

structure Fed (s : Downlink) (tx : Nat) (c : PacketChannel) : Prop where
  since_le : s.since tx <= s.read.length
  taken_le : c.taken <= c.sent.length
  due : c.due <+: s.readFor tx c
  due_eq : c.receiverAlive = true -> s.demux.registered tx c = true ->
    c.due = s.readFor tx c

def disconnected : Phase :=
  .returned (.error (.channel .usbRecv))

structure Serves (s : Downlink) (tx : Nat) (r : Relay) (c : PacketChannel) :
    Prop where
  invariant : r.Invariant
  skipped_le : s.skipped tx <= c.taken
  received : r.received = (c.sent.take c.taken).drop (s.skipped tx)
  drained : r.phase = disconnected ->
    c.sent.length <= c.taken ∧ s.demux.registered tx c = false

structure Invariant (C : TcpHeaderCodec) (packets : List UsbDevicePacket)
    (s : Downlink) : Prop where
  demux : s.demux.Invariant
  stream : exists later, packets = s.read ++ later ∧
    Chunk.bytes s.source = later.flatMap (UsbDevicePacket.encode C)
  channels : forall tx c, s.demux.channels[tx]? = some c -> s.Fed tx c
  relays : forall tx r, s.relays tx = some r ->
    exists c, s.demux.channels[tx]? = some c ∧ s.Serves tx r c

variable {C : TcpHeaderCodec} {packets : List UsbDevicePacket}
  {s t : Downlink}

theorem invariant_start {source : List Chunk}
    (hsource : Chunk.bytes source =
      packets.flatMap (UsbDevicePacket.encode C)) :
    Invariant C packets (start source) where
  demux := Demux.Invariant.init
  stream := ⟨packets, rfl, hsource⟩
  channels := by
    intro tx c hc
    cases hc
  relays := by
    intro tx r hr
    cases hr

theorem sent_eq_due (h : s.demux.Invariant) {tx : Nat} {c : PacketChannel}
    (hc : s.demux.channels[tx]? = some c) : c.sent = c.due :=
  h.delivered c (List.mem_of_getElem? hc)

theorem readFor_eq {tx : Nat} {c d : PacketChannel} (hread : t.read = s.read)
    (hsince : t.since tx = s.since tx) (hport : d.port = c.port) :
    t.readFor tx d = s.readFor tx c := by
  unfold readFor
  rw [hread, hsince, hport]

theorem Fed.lasts {tx : Nat} {c d : PacketChannel} (h : s.Fed tx c)
    (hlasts : Demux.Lasts s.demux t.demux tx c d)
    (htaken : d.taken <= c.sent.length) (hread : t.read = s.read)
    (hsince : t.since tx = s.since tx) : t.Fed tx d where
  since_le := by
    rw [hsince, hread]
    exact h.since_le
  taken_le := by
    rw [hlasts.sent]
    exact htaken
  due := by
    rw [hlasts.due, readFor_eq hread hsince hlasts.port]
    exact h.due
  due_eq := by
    intro halive hregistered
    rw [hlasts.due, readFor_eq hread hsince hlasts.port]
    exact h.due_eq (hlasts.alive halive) (hlasts.registered hregistered)

theorem Serves.lasts {tx : Nat} {r : Relay} {c d : PacketChannel}
    (h : s.Serves tx r c) (hlasts : Demux.Lasts s.demux t.demux tx c d)
    (htaken : d.taken = c.taken) (hskipped : t.skipped tx = s.skipped tx) :
    t.Serves tx r d where
  invariant := h.invariant
  skipped_le := by
    rw [hskipped, htaken]
    exact h.skipped_le
  received := by
    rw [hskipped, htaken, hlasts.sent]
    exact h.received
  drained := by
    intro hphase
    rcases h.drained hphase with ⟨hdrained, hgone⟩
    rw [hlasts.sent, htaken]
    exact ⟨hdrained, hlasts.gone hgone⟩

theorem fed_new {tx : Nat} {d : PacketChannel} (hnew : d = { port := d.port })
    (hsince : t.since tx = t.read.length) : t.Fed tx d where
  since_le := Nat.le_of_eq hsince
  taken_le := by
    rw [hnew]
    exact Nat.zero_le _
  due := by
    rw [hnew]
    exact List.nil_prefix
  due_eq := by
    intro _ _
    unfold readFor
    rw [hnew, hsince, List.drop_length]
    rfl

theorem invariant_demux (h : Invariant C packets s) {a : Demux.Action}
    (ha : a.reads = false) {demux : Demux}
    (hstep : Demux.step s.demux a = some demux) (hdemux : t.demux = demux)
    (hsource : exists later, packets = t.read ++ later ∧
      Chunk.bytes t.source = later.flatMap (UsbDevicePacket.encode C))
    (hread : t.read = s.read) (hskipped : t.skipped = s.skipped)
    (hsince : forall tx, tx < s.demux.channels.length ->
      t.since tx = s.since tx)
    (hnew : a = .register ->
      t.since s.demux.channels.length = s.read.length)
    (hrelays : t.relays = s.relays)
    (htake : forall tx r, s.relays tx = some r -> a ≠ .take tx) :
    Invariant C packets t := by
  subst hdemux
  refine ⟨Demux.invariant_step h.demux hstep, hsource, ?_, ?_⟩
  · intro tx d hd
    rcases Demux.channel_before ha hstep hd with ⟨c, hc⟩ | ⟨hregister, htx, hd'⟩
    · rcases Demux.step_lasts hc ha hstep with ⟨d', hlasts, htaken⟩
      cases hd.symm.trans hlasts.found
      have hlt := (List.getElem?_eq_some_iff.mp hc).fst
      have hfed := h.channels tx c hc
      refine hfed.lasts hlasts ?_ hread (hsince tx hlt)
      rcases htaken with hsame | ⟨_, hnext⟩
      · rw [hsame]
        exact hfed.taken_le
      · rw [hnext]
        exact Nat.min_le_right _ _
    · apply fed_new hd'
      rw [htx, hread]
      exact hnew hregister
  · intro tx r hr
    rw [hrelays] at hr
    rcases h.relays tx r hr with ⟨c, hc, hserves⟩
    rcases Demux.step_lasts hc ha hstep with ⟨d, hlasts, htaken⟩
    refine ⟨d, hlasts.found, hserves.lasts hlasts ?_ (by rw [hskipped])⟩
    rcases htaken with hsame | ⟨htaken, _⟩
    · exact hsame
    · exact absurd htaken (htake tx r hr)

theorem stepRouter_register (hstep : s.stepRouter .register = some t) :
    exists demux, Demux.step s.demux .register = some demux ∧
      { s with
        demux := demux
        since :=
          Function.update s.since s.demux.channels.length s.read.length } = t := by
  unfold stepRouter at hstep
  generalize Demux.step s.demux .register = moved at hstep ⊢
  exact Option.map_eq_some_iff.mp hstep

theorem invariant_router (h : Invariant C packets s) {a : Demux.Action}
    (hstep : s.stepRouter a = some t) : Invariant C packets t := by
  have hplain : a.reads = false -> (forall tx, a ≠ .take tx) ->
      a ≠ .register ->
      (Demux.step s.demux a).map (fun demux => { s with demux := demux }) =
        some t -> Invariant C packets t := by
    intro ha htake hregister hmoved
    rcases Option.map_eq_some_iff.mp hmoved with ⟨demux, hdemux, rfl⟩
    exact invariant_demux h ha hdemux rfl h.stream rfl rfl (fun _ _ => rfl)
      (fun heq => absurd heq hregister) rfl (fun tx _ _ => htake tx)
  cases a with
  | readPacket packet => cases hstep
  | readFailed => cases hstep
  | take tx =>
      rcases Machine.of_disabled_if hstep with ⟨hfree, hmoved⟩
      rcases Option.map_eq_some_iff.mp hmoved with ⟨demux, hdemux, rfl⟩
      refine invariant_demux h rfl hdemux rfl h.stream rfl rfl (fun _ _ => rfl)
        nofun rfl ?_
      rintro ty r hr heq
      cases heq
      rw [hr] at hfree
      exact hfree rfl
  | register =>
      rcases stepRouter_register hstep with ⟨demux, hdemux, rfl⟩
      apply invariant_demux h (a := .register) rfl hdemux
      · rfl
      · exact h.stream
      · rfl
      · rfl
      · intro tx hlt
        exact Function.update_of_ne (Nat.ne_of_lt hlt) _ _
      · intro _
        exact Function.update_self _ _ _
      · rfl
      · intro tx r _ heq
        cases heq
  | unregister port => exact hplain rfl nofun nofun hstep
  | attachConn sourcePort conn => exact hplain rfl nofun nofun hstep
  | clear => exact hplain rfl nofun nofun hstep
  | dropReceiver tx => exact hplain rfl nofun nofun hstep
  | finishRoute => exact hplain rfl nofun nofun hstep

/-!
## Reading a packet
-/

theorem readFor_append {tx : Nat} {c d : PacketChannel} (h : s.Fed tx c)
    {packet : UsbDevicePacket} (hread : t.read = s.read ++ [packet])
    (hsince : t.since = s.since) (hport : d.port = c.port) :
    t.readFor tx d = s.readFor tx c ++
      if Demux.isFor packet c.port then [packet] else [] := by
  unfold readFor
  rw [hread, hsince, hport, List.drop_append_of_le_length h.since_le,
    List.filter_append, List.filter_singleton]
  cases Demux.isFor packet c.port with
  | true => rfl
  | false => rfl

theorem Fed.reads {tx : Nat} {c d : PacketChannel} (h : s.Fed tx c)
    {packet : UsbDevicePacket}
    (hreads : Demux.Reads s.demux t.demux packet tx c d)
    (hlength : c.sent.length <= d.sent.length)
    (hread : t.read = s.read ++ [packet]) (hsince : t.since = s.since) :
    t.Fed tx d := by
  have happend := readFor_append h hread hsince hreads.port
  have hisDue := Demux.isDue_eq s.demux packet tx c
  constructor
  · rw [hsince, hread, List.length_append]
    exact Nat.le_add_right_of_le h.since_le
  · rw [hreads.taken]
    exact Nat.le_trans h.taken_le hlength
  · rw [hreads.due, happend, hisDue]
    by_cases hthere : c.receiverAlive = true ∧
        s.demux.registered tx c = true
    · rw [hthere.left, hthere.right, Bool.and_true, Bool.and_true,
        h.due_eq hthere.left hthere.right]
    · have hgone : (c.receiverAlive && s.demux.registered tx c) = false := by
        rw [← Bool.not_eq_true, Bool.and_eq_true]
        exact hthere
      rw [hgone, Bool.and_false]
      exact (List.append_nil c.due).symm ▸ h.due.trans (List.prefix_append _ _)
  · intro halive hregistered
    rw [hreads.alive] at halive
    have hregistered' := hreads.registered hregistered
    rw [hreads.due, happend, hisDue, halive, hregistered', Bool.and_true,
      Bool.and_true, h.due_eq halive hregistered']

theorem Serves.reads {tx : Nat} {r : Relay} {c d : PacketChannel}
    (h : s.Serves tx r c) (hle : c.taken <= c.sent.length)
    (htaken : d.taken = c.taken) {added : List UsbDevicePacket}
    (hsent : d.sent = c.sent ++ added) (hskipped : t.skipped = s.skipped)
    (hadded : s.demux.registered tx c = false -> added = [])
    (hleft : s.demux.registered tx c = false ->
      t.demux.registered tx d = false) : t.Serves tx r d where
  invariant := h.invariant
  skipped_le := by
    rw [hskipped, htaken]
    exact h.skipped_le
  received := by
    rw [hskipped, htaken, hsent, List.take_append_of_le_length hle]
    exact h.received
  drained := by
    intro hphase
    rcases h.drained hphase with ⟨hdrained, hgone⟩
    rw [hsent, hadded hgone, List.append_nil, htaken]
    exact ⟨hdrained, hleft hgone⟩

theorem invariant_reads (h : Invariant C packets s) {packet : UsbDevicePacket}
    {demux : Demux}
    (hstep : Demux.step s.demux (.readPacket packet) = some demux)
    {later : List UsbDevicePacket} (hpackets : packets = s.read ++ packet :: later)
    {rest : List Chunk}
    (hrest : Chunk.bytes rest = later.flatMap (UsbDevicePacket.encode C)) :
    Invariant C packets { s with
      demux := demux
      source := rest
      read := s.read ++ [packet] } := by
  have hdemux := Demux.invariant_step h.demux hstep
  have hsent : forall {tx c d}, s.demux.channels[tx]? = some c ->
      Demux.Reads s.demux demux packet tx c d ->
        d.sent = c.sent ++
          if s.demux.isDue packet tx c then [packet] else [] := by
    intro tx c d hc hreads
    rw [hdemux.delivered d (List.mem_of_getElem? hreads.found),
      sent_eq_due h.demux hc]
    exact hreads.due
  refine ⟨hdemux, ⟨later, ?_, hrest⟩, ?_, ?_⟩
  · rw [hpackets, List.append_assoc]
    rfl
  · intro tx d hd
    rcases Demux.channel_of_length hd (Demux.readPacket_length hstep) with
      ⟨c, hc⟩
    rcases Demux.readPacket_reads h.demux hstep hc with ⟨d', hreads⟩
    cases hd.symm.trans hreads.found
    refine (h.channels tx c hc).reads hreads ?_ rfl rfl
    rw [hsent hc hreads, List.length_append]
    exact Nat.le_add_right _ _
  · intro tx r hr
    rcases h.relays tx r hr with ⟨c, hc, hserves⟩
    rcases Demux.readPacket_reads h.demux hstep hc with ⟨d, hreads⟩
    refine ⟨d, hreads.found, hserves.reads (h.channels tx c hc).taken_le
      hreads.taken (hsent hc hreads) rfl ?_ hreads.gone⟩
    intro hgone
    rw [Demux.isDue_eq, hgone, Bool.and_false, Bool.and_false]
    rfl

theorem readPacket_cases (h : Invariant C packets s)
    (hframed : forall p, p ∈ packets ->
      exists protocol, UsbDevicePacket.WellFramed protocol p)
    (ending : IoError) :
    (exists packet later rest, packets = s.read ++ packet :: later ∧
        Chunk.bytes rest = later.flatMap (UsbDevicePacket.encode C) ∧
        (UsbDevicePacket.fromChunks C.toTcpHeaderReader ending).run s.source =
          .ok packet rest) ∨
      exists rest, packets = s.read ∧ Chunk.bytes rest = [] ∧
        (UsbDevicePacket.fromChunks C.toTcpHeaderReader ending).run s.source =
          .error (.io ending) rest := by
  rcases h.stream with ⟨later, hpackets, hsource⟩
  have hrun := UsbDevicePacket.fromChunks_simulates C.toTcpHeaderReader ending
    s.source
  rw [hsource] at hrun
  cases later with
  | nil =>
      right
      rcases ChunkedReader.joined_eq_error hrun with ⟨rest, hout, hrest⟩
      exact ⟨rest, by rw [hpackets, List.append_nil], hrest, hout⟩
  | cons packet later =>
      left
      have hmem : packet ∈ packets := by
        rw [hpackets]
        exact List.mem_append_right _ List.mem_cons_self
      rcases hframed packet hmem with ⟨protocol, hpacket⟩
      rw [List.flatMap_cons, hpacket.fromReader_encode C ending] at hrun
      rcases ChunkedReader.joined_eq_ok hrun with ⟨rest, hout, hrest⟩
      exact ⟨packet, later, rest, hpackets, hrest, hout⟩

theorem invariant_readPacket (h : Invariant C packets s)
    (hframed : forall p, p ∈ packets ->
      exists protocol, UsbDevicePacket.WellFramed protocol p)
    {ending : IoError}
    (hstep : s.readPacket C.toTcpHeaderReader ending = some t) :
    Invariant C packets t := by
  unfold readPacket at hstep
  rcases readPacket_cases h hframed ending with
    ⟨packet, later, rest, hpackets, hrest, hrun⟩ | ⟨rest, hpackets, hrest, hrun⟩
  · rw [hrun] at hstep
    rcases Option.map_eq_some_iff.mp hstep with ⟨demux, hdemux, rfl⟩
    exact invariant_reads h hdemux hpackets hrest
  · rw [hrun] at hstep
    rcases Option.map_eq_some_iff.mp hstep with ⟨demux, hdemux, rfl⟩
    apply invariant_demux h (a := .readFailed) rfl hdemux
    · rfl
    · exact ⟨[], by rw [hpackets, List.append_nil], hrest⟩
    · rfl
    · rfl
    · intro _ _
      rfl
    · intro heq
      cases heq
    · rfl
    · intro tx r _ heq
      cases heq

/-!
## The relays
-/

theorem Fed.of_same {tx : Nat} {c : PacketChannel} (h : s.Fed tx c)
    (hdemux : t.demux = s.demux) (hread : t.read = s.read)
    (hsince : t.since = s.since) : t.Fed tx c := by
  have hfor : t.readFor tx c = s.readFor tx c :=
    readFor_eq hread (congrFun hsince tx) rfl
  constructor
  · rw [hsince, hread]
    exact h.since_le
  · exact h.taken_le
  · rw [hfor]
    exact h.due
  · rw [hfor, hdemux]
    exact h.due_eq

theorem Invariant.of_relays (h : Invariant C packets s)
    (hdemux : t.demux = s.demux) (hsource : t.source = s.source)
    (hread : t.read = s.read) (hsince : t.since = s.since)
    (hrelays : forall tx r, t.relays tx = some r ->
      exists c, s.demux.channels[tx]? = some c ∧ t.Serves tx r c) :
    Invariant C packets t where
  demux := by
    rw [hdemux]
    exact h.demux
  stream := by
    rw [hread, hsource]
    exact h.stream
  channels := by
    intro tx c hc
    rw [hdemux] at hc
    exact (h.channels tx c hc).of_same hdemux hread hsince
  relays := by
    rw [hdemux]
    exact hrelays

theorem Serves.of_same {tx : Nat} {r : Relay} {c : PacketChannel}
    (h : s.Serves tx r c) (hdemux : t.demux = s.demux)
    (hskipped : t.skipped tx = s.skipped tx) : t.Serves tx r c where
  invariant := h.invariant
  skipped_le := by
    rw [hskipped]
    exact h.skipped_le
  received := by
    rw [hskipped]
    exact h.received
  drained := by
    rw [hdemux]
    exact h.drained

theorem invariant_serve (h : Invariant C packets s) {tx : Nat}
    {conn : UsbDeviceConn} (hstep : s.serve tx conn = some t) :
    Invariant C packets t := by
  unfold serve at hstep
  split at hstep
  · rename_i c hc _
    cases hstep
    apply h.of_relays
    · rfl
    · rfl
    · rfl
    · rfl
    intro ty r hr
    rcases of_update_eq_some hr with ⟨rfl, rfl⟩ | ⟨hother, hr⟩
    · refine ⟨c, hc, Relay.Invariant.init conn, ?_, ?_, nofun⟩
      · exact Nat.le_of_eq (Function.update_self _ _ _)
      · show [] = (c.sent.take c.taken).drop
          (Function.update s.skipped ty c.taken ty)
        rw [Function.update_self, List.drop_eq_nil_of_le]
        exact List.length_take_le _ _
    · rcases h.relays ty r hr with ⟨d, hd, hserves⟩
      exact ⟨d, hd, hserves.of_same rfl (Function.update_of_ne hother _ _)⟩
  · cases hstep

theorem received_of_step {r u : Relay} {a : Relay.Action}
    (ha : forall packet answer, a ≠ .recvPacket packet answer)
    (hstep : Relay.step r a = some u) : u.received = r.received := by
  cases a with
  | shutdown => exact (Relay.shutdown_drops hstep).received
  | recvPacket packet answer => exact absurd rfl (ha packet answer)
  | recvDisconnected =>
      rcases Relay.recvDisconnected_eq_some hstep with ⟨_, _, rfl⟩
      rfl
  | recvAck answer =>
      rcases Relay.recvAck_eq_some hstep with ⟨_, _, _, _, rfl⟩
      exact Relay.ack_received _ _ _ _ _
  | clientRead answer => exact (Relay.readClient_drops hstep).received
  | clientWrite answer =>
      rcases Relay.writeClient_cases hstep with
        ⟨rest, _, ⟨err, _, rfl⟩ | ⟨n, _, _, rfl⟩⟩
      · rfl
      · exact Relay.clientSend_received _ _
  | sendBytes answer =>
      rcases Relay.sendBytes_cases hstep with
        ⟨packet, _, ⟨_, rfl⟩ | ⟨_, rfl⟩ | ⟨_, rfl⟩⟩
      · rfl
      · rfl
      · rfl
  | sendRst answer =>
      rcases Relay.sendRst_cases hstep with
        ⟨rstPacket, _, ⟨_, rfl⟩ | ⟨_, rfl⟩ | ⟨_, rfl⟩⟩
      · rfl
      · rfl
      · rfl

theorem clientSend_phase (r : Relay) (payload : List UInt8) :
    (r.clientSend payload).phase ≠ disconnected := by
  unfold Relay.clientSend
  split
  · nofun
  · nofun

theorem ack_phase (r : Relay) (response tcpAck : UsbDevicePacket)
    (sendable : Nat) (answer : SendAnswer) :
    (r.ack response tcpAck sendable answer).phase ≠ disconnected := by
  cases answer with
  | sent => exact clientSend_phase _ _
  | full => nofun
  | disconnected => nofun

theorem clientPacket_phase (r : Relay) (sendable : Nat) :
    (r.clientPacket sendable).phase ≠ disconnected := by
  unfold Relay.clientPacket
  simp only
  split
  · nofun
  · nofun

theorem phase_of_step {r u : Relay} {a : Relay.Action}
    (ha : a ≠ .recvDisconnected) (hstep : Relay.step r a = some u) :
    u.phase ≠ disconnected := by
  cases a with
  | shutdown =>
      rcases Relay.shutdown_eq_some hstep with ⟨_, _, _, rfl⟩
      nofun
  | recvPacket packet answer =>
      rcases Relay.recvPacket_eq_some hstep with ⟨_, _, rfl⟩
      exact ack_phase _ _ _ _ _
  | recvDisconnected => exact absurd rfl ha
  | recvAck answer =>
      rcases Relay.recvAck_eq_some hstep with ⟨_, _, _, _, rfl⟩
      exact ack_phase _ _ _ _ _
  | clientRead answer =>
      rcases Relay.readClient_cases hstep with
        ⟨_, _, _, _, ⟨_, rfl⟩ | ⟨_, _, rfl⟩ | ⟨_, _, _, rfl⟩⟩
      · exact clientPacket_phase _ _
      · nofun
      · exact clientPacket_phase _ _
  | clientWrite answer =>
      rcases Relay.writeClient_cases hstep with
        ⟨rest, _, ⟨err, _, rfl⟩ | ⟨n, _, _, rfl⟩⟩
      · nofun
      · exact clientSend_phase _ _
  | sendBytes answer =>
      rcases Relay.sendBytes_cases hstep with
        ⟨packet, hphase, ⟨_, rfl⟩ | ⟨_, rfl⟩ | ⟨_, rfl⟩⟩
      · nofun
      · rw [hphase]
        nofun
      · nofun
  | sendRst answer =>
      rcases Relay.sendRst_cases hstep with
        ⟨rstPacket, hphase, ⟨_, rfl⟩ | ⟨_, rfl⟩ | ⟨_, rfl⟩⟩
      · nofun
      · rw [hphase]
        nofun
      · nofun

theorem stepRelay_cases {tx : Nat} {a : Relay.Action}
    (hstep : s.stepRelay tx a = some t) :
    exists r u, s.relays tx = some r ∧ Relay.step r a = some u ∧
      ((exists packet answer demux, a = .recvPacket packet answer ∧
          s.nextPacket tx = some packet ∧
          Demux.step s.demux (.take tx) = some demux ∧
          t = { s with
            relays := Function.update s.relays tx (some u)
            demux := demux }) ∨
        ((forall packet answer, a ≠ .recvPacket packet answer) ∧
          (a = .recvDisconnected -> s.isDrained tx = true) ∧
          t = { s with relays := Function.update s.relays tx (some u) })) := by
  rcases Option.bind_eq_some_iff.mp hstep with ⟨r, hr, hmoved⟩
  rcases Option.bind_eq_some_iff.mp hmoved with ⟨u, hu, hchannel⟩
  refine ⟨r, u, hr, hu, ?_⟩
  cases a with
  | recvPacket packet answer =>
      rcases Machine.of_enabled_if hchannel with ⟨hnext, htake⟩
      rcases Option.map_eq_some_iff.mp htake with ⟨demux, hdemux, rfl⟩
      exact Or.inl ⟨packet, answer, demux, rfl, hnext, hdemux, rfl⟩
  | recvDisconnected =>
      rcases Machine.of_enabled_if hchannel with ⟨hdrained, hsame⟩
      refine Or.inr ⟨?_, fun _ => hdrained, (Option.some.inj hsame).symm⟩
      intro packet answer heq
      cases heq
  | _ =>
      refine Or.inr ⟨?_, ?_, (Option.some.inj hchannel).symm⟩
      · intro packet answer heq
        cases heq
      · intro heq
        cases heq

theorem invariant_without (h : Invariant C packets s) (tx : Nat) :
    Invariant C packets { s with
      relays := Function.update s.relays tx none } := by
  apply h.of_relays
  · rfl
  · rfl
  · rfl
  · rfl
  intro ty r hr
  rcases of_update_none_eq_some hr with ⟨_, hr⟩
  rcases h.relays ty r hr with ⟨c, hc, hserves⟩
  exact ⟨c, hc, hserves.of_same rfl rfl⟩

theorem invariant_with {tx : Nat} {u : Relay} {c : PacketChannel}
    (h : Invariant C packets { s with
      relays := Function.update s.relays tx none })
    (hc : s.demux.channels[tx]? = some c) (hserves : s.Serves tx u c) :
    Invariant C packets { s with
      relays := Function.update s.relays tx (some u) } := by
  apply h.of_relays
  · rfl
  · rfl
  · rfl
  · rfl
  intro ty r hr
  rcases of_update_eq_some hr with ⟨rfl, rfl⟩ | ⟨hother, hr⟩
  · exact ⟨c, hc, hserves.of_same rfl rfl⟩
  · have hothers : Function.update s.relays tx none ty = some r := by
      rw [Function.update_of_ne hother]
      exact hr
    rcases h.relays ty r hothers with ⟨d, hd, hserves⟩
    exact ⟨d, hd, hserves.of_same rfl rfl⟩

theorem serves_recvPacket {tx : Nat} {r u : Relay} {c : PacketChannel}
    (h : s.Serves tx r c) {packet : UsbDevicePacket} {answer : SendAnswer}
    (hstep : Relay.step r (.recvPacket packet answer) = some u)
    (hnext : c.sent[c.taken]? = some packet)
    (hskipped : t.skipped tx = s.skipped tx) : t.Serves tx u c.take := by
  rcases List.getElem?_eq_some_iff.mp hnext with ⟨hlt, hpacket⟩
  have htaken : c.take.taken = c.taken + 1 := Nat.min_eq_left hlt
  constructor
  · exact Relay.invariant_step h.invariant hstep trivial
  · rw [hskipped, htaken]
    exact Nat.le_succ_of_le h.skipped_le
  · have hle : s.skipped tx <= (c.sent.take c.taken).length := by
      rw [List.length_take_of_le (Nat.le_of_lt hlt)]
      exact h.skipped_le
    rw [Relay.recvPacket_received hstep, h.received, hskipped, htaken]
    show _ = (c.sent.take (c.taken + 1)).drop (s.skipped tx)
    rw [List.take_add_one, hnext]
    exact (List.drop_append_of_le_length hle).symm
  · intro hphase
    refine absurd hphase (phase_of_step ?_ hstep)
    nofun

theorem serves_step {tx : Nat} {r u : Relay} {c : PacketChannel}
    (h : s.Serves tx r c) (hc : s.demux.channels[tx]? = some c)
    {a : Relay.Action} (hstep : Relay.step r a = some u)
    (hguard : r.KeepsResponse a)
    (hnone : forall packet answer, a ≠ .recvPacket packet answer)
    (hdrained : a = .recvDisconnected -> s.isDrained tx = true) :
    s.Serves tx u c where
  invariant := Relay.invariant_step h.invariant hstep hguard
  skipped_le := h.skipped_le
  received := by
    rw [received_of_step hnone hstep]
    exact h.received
  drained := by
    intro hphase
    by_cases ha : a = .recvDisconnected
    · have hboth := hdrained ha
      unfold isDrained at hboth
      rw [hc, Option.any_some, Bool.and_eq_true, Bool.not_eq_true'] at hboth
      exact ⟨of_decide_eq_true hboth.left, hboth.right⟩
    · exact absurd hphase (phase_of_step ha hstep)

theorem invariant_relay (h : Invariant C packets s) {tx : Nat}
    {a : Relay.Action} (hstep : s.stepRelay tx a = some t)
    (hguard : s.KeepsResponses (.relay tx a)) : Invariant C packets t := by
  rcases stepRelay_cases hstep with ⟨r, u, hr, hu, hmoved⟩
  rcases h.relays tx r hr with ⟨c, hc, hserves⟩
  have hwithout := invariant_without h tx
  rcases hmoved with ⟨packet, answer, demux, rfl, hnext, htake, rfl⟩ |
    ⟨hnone, hdrained, rfl⟩
  · have hmoved : Invariant C packets { s with
        demux := demux
        relays := Function.update s.relays tx none } := by
      apply invariant_demux hwithout (a := .take tx) rfl htake
      · rfl
      · exact h.stream
      · rfl
      · rfl
      · intro _ _
        rfl
      · intro heq
        cases heq
      · rfl
      · rintro ty v hv heq
        cases heq
        exact (of_update_none_eq_some hv).left rfl
    have hfirst : c.sent[c.taken]? = some packet := by
      unfold nextPacket at hnext
      rw [hc] at hnext
      exact hnext
    have hchannel : demux.channels[tx]? = some c.take := by
      cases htake
      show (s.demux.channels.modify tx _)[tx]? = _
      rw [List.getElem?_modify, hc]
      simp
    exact invariant_with (s := { s with demux := demux }) hmoved hchannel
      (serves_recvPacket hserves hu hfirst rfl)
  · exact invariant_with hwithout hc
      (serves_step hserves hc hu (hguard r hr) hnone hdrained)

/-!
## Runs
-/

/-- Every packet of the device is one that a host can read. -/
def AllFramed (packets : List UsbDevicePacket) : Prop :=
  forall p, p ∈ packets -> exists protocol, UsbDevicePacket.WellFramed protocol p

theorem invariant_step (hframed : AllFramed packets) {ending : IoError}
    {a : Action} (h : Invariant C packets s)
    (hstep : step C.toTcpHeaderReader ending s a = some t)
    (hguard : s.KeepsResponses a) : Invariant C packets t := by
  cases a with
  | router action => exact invariant_router h hstep
  | readPacket => exact invariant_readPacket h hframed hstep
  | serve tx conn => exact invariant_serve h hstep
  | relay tx action => exact invariant_relay h hstep hguard

/--
How the bytes of a client come from the packets of its device.  When its channel
is disconnected, the client has all that was sent there.
-/
structure Delivers (s : Downlink) (packets : List UsbDevicePacket) (tx : Nat)
    (r : Relay) (c : PacketChannel) : Prop where
  read : s.read <+: packets
  sent : c.sent <+: s.readFor tx c
  sent_eq : c.receiverAlive = true -> s.demux.registered tx c = true ->
    c.sent = s.readFor tx c
  written : r.written ++ (r.phase.inHand ++ payloads (c.sent.drop c.taken)) =
    payloads (c.sent.drop (s.skipped tx))
  disconnected : r.phase = disconnected ->
    r.written = payloads (c.sent.drop (s.skipped tx))

theorem Serves.written {tx : Nat} {r : Relay} {c : PacketChannel}
    (h : s.Serves tx r c) (hle : c.taken <= c.sent.length)
    (hfailed : r.failed = false) :
    r.written ++ (r.phase.inHand ++ payloads (c.sent.drop c.taken)) =
      payloads (c.sent.drop (s.skipped tx)) := by
  have hskipped : s.skipped tx <= (c.sent.take c.taken).length := by
    rw [List.length_take_of_le hle]
    exact h.skipped_le
  calc r.written ++ (r.phase.inHand ++ payloads (c.sent.drop c.taken))
      _ = payloads r.received ++ payloads (c.sent.drop c.taken) := by
        rw [← List.append_assoc, h.invariant.delivers hfailed]
      _ = payloads ((c.sent.take c.taken).drop (s.skipped tx) ++
            c.sent.drop c.taken) := by
        rw [h.received, payloads_append]
      _ = payloads (c.sent.drop (s.skipped tx)) := by
        rw [← List.drop_append_of_le_length hskipped, List.take_append_drop]

theorem Invariant.delivers (h : Invariant C packets s) {tx : Nat} {r : Relay}
    (hr : s.relays tx = some r) (hfailed : r.failed = false) :
    exists c, s.demux.channels[tx]? = some c ∧ s.Delivers packets tx r c := by
  rcases h.relays tx r hr with ⟨c, hc, hserves⟩
  have hfed := h.channels tx c hc
  have hsent := sent_eq_due h.demux hc
  have hwritten := hserves.written hfed.taken_le hfailed
  refine ⟨c, hc, ?_, ?_, ?_, hwritten, ?_⟩
  · rcases h.stream with ⟨later, hpackets, _⟩
    exact ⟨later, hpackets.symm⟩
  · rw [hsent]
    exact hfed.due
  · rw [hsent]
    exact hfed.due_eq
  · intro hphase
    rw [hphase, List.drop_eq_nil_of_le (hserves.drained hphase).left] at hwritten
    exact (List.append_nil r.written).symm.trans hwritten

/--
Whatever the interleaving of the reader loop, the router and the relays, and in
whatever chunks the bytes arrive: each client gets the data that the device
sends to its port, in order, as far as the reader loop has read it.
-/
theorem clients_receive (C : TcpHeaderCodec) (ending : IoError)
    {packets : List UsbDevicePacket} (hframed : AllFramed packets)
    {source : List Chunk}
    (hsource : Chunk.bytes source =
      packets.flatMap (UsbDevicePacket.encode C)) {actions : List Action}
    {s : Downlink}
    (hrun : Machine.run (step C.toTcpHeaderReader ending) (start source)
      actions = some s)
    (hguarded : Machine.Guarded (step C.toTcpHeaderReader ending) KeepsResponses
      (start source) actions) {tx : Nat} {r : Relay}
    (hr : s.relays tx = some r) (hfailed : r.failed = false) :
    exists c, s.demux.channels[tx]? = some c ∧ s.Delivers packets tx r c := by
  have hinvariant := Machine.throughout_of_guarded
    (I := Invariant C packets) (fun _ _ _ => invariant_step hframed)
    (invariant_start hsource) hguarded
  exact (hinvariant.last hrun).delivers hr hfailed

def oneByte : List Action :=
  [.router .register, .readPacket, .router (.take 0), .serve 0 (.opened 62078 1),
    .readPacket, .relay 0 (.recvPacket Relay.deviceByte .full), .readPacket,
    .relay 0 (.recvAck .sent), .relay 0 (.clientWrite (.ok 1)),
    .relay 0 .recvDisconnected]

def synAck : UsbDevicePacket :=
  (UsbDeviceConn.opened 1 62078).buildFlag ⟨3⟩

def oneByteSource : List Chunk :=
  [⟨synAck.encode .standard ++
      (Relay.deviceByte.encode .standard).take 3, nofun⟩,
    ⟨(Relay.deviceByte.encode .standard).drop 3, nofun⟩]

def oneByteEnd : Downlink :=
  (Machine.run (step TcpHeaderCodec.standard.toTcpHeaderReader
    UsbDevicePacket.earlyEof) (start oneByteSource) oneByte).getD (start [])

/-- The client gets the byte, although its channel is disconnected. -/
theorem clients_receive_oneByte :
    exists r, oneByteEnd.relays 0 = some r ∧ r.written = [0x2a] ∧
      exists c, oneByteEnd.demux.channels[0]? = some c ∧
        oneByteEnd.Delivers [synAck, Relay.deviceByte] 0 r c := by
  have hconn : ConnOf 62078 (UsbDeviceConn.opened 1 62078) :=
    ⟨rfl, by decide⟩
  have hframed : AllFramed [synAck, Relay.deviceByte] := by
    intro packet hmem
    rcases List.mem_cons.mp hmem with rfl | hmem
    · exact (hconn.buildFlag ⟨3⟩).left.carried.framed
    · cases List.mem_singleton.mp hmem
      exact (hconn.buildBytes (by decide)).carried.framed
  have hrun : Machine.run (step TcpHeaderCodec.standard.toTcpHeaderReader
      UsbDevicePacket.earlyEof) (start oneByteSource) oneByte =
        some oneByteEnd := rfl
  have hguarded : Machine.Guarded
      (step TcpHeaderCodec.standard.toTcpHeaderReader UsbDevicePacket.earlyEof)
      KeepsResponses (start oneByteSource) oneByte := by
    intro pre a t u hpre _ _
    have hmem : a ∈ oneByte :=
      hpre.mem (List.mem_append_right _ (List.mem_singleton_self a))
    simp only [oneByte, List.mem_cons, List.not_mem_nil, or_false] at hmem
    rcases hmem with rfl | rfl | rfl | rfl | rfl | rfl | rfl | rfl | rfl | rfl
    all_goals first | exact trivial | exact fun _ _ => trivial
  refine ⟨_, rfl, rfl, ?_⟩
  exact clients_receive .standard UsbDevicePacket.earlyEof hframed rfl hrun
    hguarded rfl rfl

end Downlink

end Handler
end Rusbmux
