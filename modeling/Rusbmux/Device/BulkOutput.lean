import Rusbmux.Device.Opening
import Rusbmux.Foundation.ShortPackets
import Rusbmux.UsbBackend.BulkWriter

/-!
# Packets on the bulk endpoint

`start_writer_loop` of `device/usb.rs` writing to the `RusbAsyncWriter` of
`usb_backend/rusb/mod.rs`.  A packet is written in two calls of `write_all`,
which only fill the buffer of the writer as long as the packet is shorter than
the limit for an automatic flush, and is sent by the `submit_end` after them.
The loop gets the writer that has sent the two packets of the opening.  These
were flushed without a `submit_end`, so the writer still counts their bytes.  The
device finds the end of a packet where a transfer ends short of a whole USB
packet.
-/

namespace Rusbmux
namespace Device

open Foundation
open Rusbmux.Parser
open Rusbmux.UsbBackend

namespace BulkOutput

inductive Phase where
  | receiving
  /-- It is in the `write_all` of the headers, of which this is left. -/
  | headers (left : List UInt8) (packet : UsbDevicePacket)
  | payload (left : List UInt8) (packet : UsbDevicePacket)

namespace Phase

def packet? : Phase -> Option UsbDevicePacket
  | receiving => none
  | headers _ packet => some packet
  | payload _ packet => some packet

def rest : Phase -> List UInt8
  | receiving => []
  | headers left packet => left ++ packet.payload.encode
  | payload left _ => left

end Phase

end BulkOutput

structure BulkOutput where
  loop : WriterLoop := {}
  phase : BulkOutput.Phase := .receiving
  writer : RusbAsyncWriter
  /-- The packets whose bytes a `submit_end` has written to the endpoint. -/
  flushed : List UsbDevicePacket := []

namespace BulkOutput

def opening : List UsbDevicePacket :=
  [versionPacket, setupPacket]

def openedWriter (C : TcpHeaderCodec) (maxPacketSize : Nat) :
    RusbAsyncWriter where
  maxPacketSize := maxPacketSize
  currentTransferLen := (opening.flatMap (UsbDevicePacket.encode C)).length
  endpoint := opening.map (UsbDevicePacket.encode C)

def start (C : TcpHeaderCodec) (maxPacketSize : Nat) : BulkOutput where
  writer := openedWriter C maxPacketSize

def writeZero : IoError where
  kind := .writeZero
  message := "write zero"

def writeRound (s : RusbAsyncWriter) (left : List UInt8)
    (submitted : Submission) :
    Option (RusbAsyncWriter × Poll (IoResult (List UInt8))) :=
  (s.pollWrite left submitted).map fun (s, result) =>
    match result with
    | .ready (.ok 0) => (s, .ready (.error writeZero))
    | .ready (.ok n) => (s, .ready (.ok (left.drop n)))
    | .ready (.error err) => (s, .ready (.error err))
    | .pending => (s, .pending)

inductive Action where
  | receive
  | take (build : UsbDevicePacket.Build)
  /-- The `write_all` that the loop is in is polled. -/
  | poll (submitted : Submission)
  | submitEnd (flushed ended : Except String Unit)
  | settle (rx : UsbBackend.Receiver)

def take (checks : Bool) (C : TcpHeaderCodec) (u : BulkOutput)
    (packet : UsbDevicePacket) : Option BulkOutput :=
  (u.loop.number checks packet).bind fun (loop, packet) =>
    (WriterLoop.headerBytes C loop.hbuf packet).map fun (hbuf, written) =>
      { u with
        loop := { loop with hbuf := hbuf }
        phase := .headers written packet }

/-- After a failed header the loop goes on at once, without a `submit_end`. -/
def pollHeaders (u : BulkOutput) (left : List UInt8) (packet : UsbDevicePacket)
    (submitted : Submission) : Option BulkOutput :=
  if left.isEmpty then
    some { u with phase := .payload packet.payload.encode packet }
  else
    (writeRound u.writer left submitted).map fun (writer, result) =>
      match result with
      | .ready (.ok left) =>
          { u with writer := writer, phase := .headers left packet }
      | .ready (.error _) => { u with writer := writer, phase := .receiving }
      | .pending => { u with writer := writer }

/-- A failed payload is only logged. -/
def pollPayload (u : BulkOutput) (left : List UInt8) (packet : UsbDevicePacket)
    (submitted : Submission) : Option BulkOutput :=
  if left.isEmpty then none
  else
    (writeRound u.writer left submitted).map fun (writer, result) =>
      match result with
      | .ready (.ok left) =>
          { u with writer := writer, phase := .payload left packet }
      | .ready (.error _) =>
          { u with writer := writer, phase := .payload [] packet }
      | .pending => { u with writer := writer }

def submitEnd (u : BulkOutput) (packet : UsbDevicePacket)
    (flushed ended : Except String Unit) : BulkOutput :=
  { u with
    writer := (u.writer.submitEnd flushed ended).fst
    phase := .receiving
    flushed := u.flushed ++ if flushed.isOk then [packet] else [] }

def step (checks : Bool) (C : TcpHeaderCodec) (F : Plist.Format) :
    Machine BulkOutput Action := fun u a =>
  match a, u.phase with
  | .receive, _ =>
      some { u with loop := { u.loop with recvSeq := u.loop.recvSeq + 1 } }
  | .take build, .receiving => u.take checks C (build.packet F)
  | .poll submitted, .headers left packet =>
      u.pollHeaders left packet submitted
  | .poll submitted, .payload left packet =>
      u.pollPayload left packet submitted
  | .submitEnd flushed ended, .payload [] packet =>
      some (u.submitEnd packet flushed ended)
  | .settle rx, _ =>
      if u.writer.pending = some .waiting then
        some { u with writer := { u.writer with pending := some rx } }
      else
        none
  | _, _ => none

def Action.ofLoop : Action -> Option WriterLoop.Action
  | .receive => some .receive
  | .take build => some (.write build .done .done)
  | _ => none

def ShortPacket (C : TcpHeaderCodec) (packet : UsbDevicePacket) : Prop :=
  (packet.encode C).length < RusbAsyncWriter.autoFlushLen

def Action.Short (C : TcpHeaderCodec) (F : Plist.Format) : Action -> Prop
  | .take build => ShortPacket C (build.packet F)
  | _ => True

/--
The device has got the packets of the opening and the flushed ones, one by one,
and nothing more.
-/
def Delivered (C : TcpHeaderCodec) (u : BulkOutput) : Prop :=
  ShortPackets.receiveAll u.writer.maxPacketSize {} u.writer.endpoint =
    { messages := (opening ++ u.flushed).map (UsbDevicePacket.encode C) }

/-- No packet of the opening fills its last USB packet. -/
def EndsOpening (C : TcpHeaderCodec) (maxPacketSize : Nat) : Prop :=
  forall packet, packet ∈ opening ->
    ¬ maxPacketSize ∣ (packet.encode C).length

/--
The first packet after the opening fills its last USB packet exactly if it does
so together with the bytes of the opening.
-/
def FirstFits (C : TcpHeaderCodec) (maxPacketSize : Nat)
    (flushed : List UsbDevicePacket) : Prop :=
  forall packet, flushed.head? = some packet ->
    (maxPacketSize ∣ (packet.encode C).length <->
      maxPacketSize ∣ 37 + (packet.encode C).length)

/-!
## The writer after the opening
-/

theorem length_encode_versionPacket (C : TcpHeaderCodec) :
    (versionPacket.encode C).length = 20 := rfl

theorem length_encode_setupPacket (C : TcpHeaderCodec) :
    (setupPacket.encode C).length = 17 := rfl

theorem endsOpening_of_dvd (C : TcpHeaderCodec) {maxPacketSize : Nat}
    (h : 8 ∣ maxPacketSize) : EndsOpening C maxPacketSize := by
  intro packet hmem hfull
  have height := h.trans hfull
  rcases List.mem_cons.mp hmem with rfl | hmem
  · rw [length_encode_versionPacket] at height
    exact absurd height (by decide)
  · cases List.mem_singleton.mp hmem
    rw [length_encode_setupPacket] at height
    exact absurd height (by decide)

theorem firstFits_of_flag {C : TcpHeaderCodec} {maxPacketSize : Nat}
    (h : 8 ∣ maxPacketSize) (F : Plist.Format) (n r : Nat)
    (parts : UsbDevicePacket.TcpParts) (later : List UsbDevicePacket) :
    FirstFits C maxPacketSize (WriterLoop.renumber n r
      ((UsbDevicePacket.Build.flag parts).packet F) :: later) := by
  have hlength : ((WriterLoop.renumber n r
      ((UsbDevicePacket.Build.flag parts).packet F)).encode C).length = 36 := by
    unfold UsbDevicePacket.encode
    rw [List.length_append, List.length_append,
      UsbDevicePacketHeader.encode_length]
    show 16 + (C.toBytes _).length + 0 = 36
    rw [C.toBytes_length rfl]
    rfl
  intro packet hpacket
  cases hpacket
  rw [hlength]
  constructor
  · intro hfull
    exact absurd (h.trans hfull) (by decide)
  · intro hfull
    exact absurd (h.trans hfull) (by decide)

theorem encode_ne_nil {C : TcpHeaderCodec} (packet : UsbDevicePacket) :
    packet.encode C ≠ [] := by
  intro hnil
  have hlength := congrArg List.length hnil
  unfold UsbDevicePacket.encode at hlength
  rw [List.length_append, List.length_append,
    UsbDevicePacketHeader.encode_length] at hlength
  have hsize : 0 < packet.header.size := by
    cases packet.header with
    | v1 h => exact Nat.succ_pos 7
    | v2 h => exact Nat.succ_pos 15
  have hnone := (Nat.add_eq_zero_iff.mp hlength).left
  exact Nat.ne_of_gt hsize (Nat.add_eq_zero_iff.mp hnone).left

def writeAndFlush (data : List UInt8) (result : BulkResult) :
    List WriterUse.Action :=
  [.pollWrite data (.ok .waiting), .pollFlush (.ok .waiting), .complete result,
    .pollFlush (.ok .waiting)]

theorem run_writeAndFlush {w : WriterUse} (hbuffer : w.writer.buffer = [])
    (hpending : w.writer.pending = none) (data : List UInt8) (hdata : data ≠ [])
    (hshort : data.length < RusbAsyncWriter.autoFlushLen) {result : BulkResult}
    (hstatus : result.status = 0) :
    exists x, Machine.run WriterUse.step w (writeAndFlush data result) =
      some x ∧ x.writer = { w.writer with
        currentTransferLen := w.writer.currentTransferLen + data.length
        endpoint := w.writer.endpoint ++ [data] } := by
  rcases w with ⟨⟨size, buffer, count, pending, sent⟩, outstanding, reported,
    waits⟩
  cases hbuffer
  cases hpending
  have hwrite : WriterUse.write ⟨⟨size, [], count, none, sent⟩, outstanding,
      reported, waits⟩ data (.ok .waiting) =
        some ⟨⟨size, data, count, none, sent⟩, none,
          reported ++ data.take data.length, waits⟩ := by
    unfold WriterUse.write RusbAsyncWriter.pollWrite
    simp only [List.isEmpty_iff, if_neg hdata, List.nil_append,
      if_neg (Nat.not_le.mpr hshort), Option.map_some]
  have hflush : RusbAsyncWriter.pollFlush ⟨size, data, count, none, sent⟩
      (.ok .waiting) = some (⟨size, [], count + data.length, some .waiting,
        sent ++ [data]⟩, .pending) := by
    unfold RusbAsyncWriter.pollFlush
    simp only [List.isEmpty_iff, if_neg hdata]
    rfl
  have hflushed : RusbAsyncWriter.pollFlush ⟨size, [], count + data.length,
      some (.ready result), sent ++ [data]⟩ (.ok .waiting) =
        some (⟨size, [], count + data.length, none, sent ++ [data]⟩,
          .ready (.ok ())) := by
    unfold RusbAsyncWriter.pollFlush RusbAsyncWriter.pollFlushInFlight
      Receiver.poll
    simp only [hstatus, ne_eq, not_true_eq_false, if_false]
  refine ⟨⟨⟨size, [], count + data.length, none, sent ++ [data]⟩, none,
    reported ++ data.take data.length, waits⟩, ?_, rfl⟩
  refine (Machine.run_cons_of_step hwrite _).trans ?_
  refine (Machine.run_cons_of_step (congrArg (Option.map _) hflush) _).trans ?_
  refine (Machine.run_cons_of_step rfl _).trans ?_
  exact Machine.run_cons_of_step (congrArg (Option.map _) hflushed) []

theorem run_opening (C : TcpHeaderCodec) (maxPacketSize : Nat)
    {first second : BulkResult} (hfirst : first.status = 0)
    (hsecond : second.status = 0) :
    exists w, Machine.run WriterUse.step (WriterUse.start maxPacketSize)
        (writeAndFlush (versionPacket.encode C) first ++
          writeAndFlush (setupPacket.encode C) second) = some w ∧
      w.writer = openedWriter C maxPacketSize := by
  rcases run_writeAndFlush (w := WriterUse.start maxPacketSize) rfl rfl
    (versionPacket.encode C) (encode_ne_nil versionPacket)
    ((length_encode_versionPacket C).trans_lt (by decide)) hfirst with
    ⟨v, hversion, hv⟩
  rcases run_writeAndFlush (w := v) (by rw [hv]; rfl) (by rw [hv]; rfl)
    (setupPacket.encode C) (encode_ne_nil setupPacket)
    ((length_encode_setupPacket C).trans_lt (by decide)) hsecond with
    ⟨w, hsetup, hw⟩
  refine ⟨w, (Machine.run_append_of_run hversion _).trans hsetup, ?_⟩
  rw [hw, hv]
  rfl

/-!
## The writer under a short packet
-/

theorem writeRound_of_short {s : RusbAsyncWriter} {left : List UInt8}
    (hpending : s.pending = none) (hleft : left ≠ [])
    (hshort : (s.buffer ++ left).length < RusbAsyncWriter.autoFlushLen)
    (submitted : Submission) :
    writeRound s left submitted =
      some ({ s with buffer := s.buffer ++ left }, .ready (.ok [])) := by
  unfold writeRound RusbAsyncWriter.pollWrite
  rw [hpending]
  simp only [List.isEmpty_iff, if_neg hleft, if_neg (Nat.not_le.mpr hshort),
    Option.map_some]
  cases hlength : left.length with
  | zero => exact absurd (List.length_eq_zero_iff.mp hlength) hleft
  | succ n =>
      have hnone : left.drop (n + 1) = [] := by
        rw [← hlength, List.drop_length]
      simp only [hnone]

theorem submitEnd_flushFails {s : RusbAsyncWriter} (hbuffer : s.buffer ≠ [])
    (text : String) (ended : Except String Unit) :
    (s.submitEnd (.error text) ended).fst = { s with
      buffer := []
      currentTransferLen := s.currentTransferLen + s.buffer.length } := by
  unfold RusbAsyncWriter.submitEnd RusbAsyncWriter.syncFlushAndZlp
    RusbAsyncWriter.syncFlush
  simp only [List.isEmpty_iff, if_neg hbuffer]
  rfl

theorem submitEnd_flushed {s : RusbAsyncWriter} (hbuffer : s.buffer ≠ [])
    (ended : Except String Unit) :
    (s.submitEnd (.ok ()) ended).fst.endpoint = s.endpoint ++
        ShortPackets.marked s.buffer (decide (s.maxPacketSize ∣
          s.currentTransferLen + s.buffer.length) && ended.isOk) ∧
      (s.submitEnd (.ok ()) ended).fst.buffer = [] ∧
      (s.submitEnd (.ok ()) ended).fst.pending = s.pending ∧
      (s.submitEnd (.ok ()) ended).fst.maxPacketSize = s.maxPacketSize ∧
      (ended.isOk = true ->
        (s.submitEnd (.ok ()) ended).fst.currentTransferLen = 0) := by
  have hpos : 0 < s.currentTransferLen + s.buffer.length :=
    Nat.add_pos_right _ (List.length_pos_of_ne_nil hbuffer)
  unfold RusbAsyncWriter.submitEnd RusbAsyncWriter.syncFlushAndZlp
    RusbAsyncWriter.syncFlush RusbAsyncWriter.zlp ShortPackets.marked
  simp only [List.isEmpty_iff, if_neg hbuffer, RusbAsyncWriter.writeBulk, hpos,
    true_and, ← Nat.dvd_iff_mod_eq_zero]
  by_cases hfull : s.maxPacketSize ∣ s.currentTransferLen + s.buffer.length
  · cases ended with
    | ok done =>
        rw [if_pos hfull, decide_eq_true hfull]
        refine ⟨List.append_assoc _ _ _, rfl, rfl, rfl, fun _ => rfl⟩
    | error text =>
        rw [if_pos hfull, decide_eq_true hfull]
        exact ⟨rfl, rfl, rfl, rfl, nofun⟩
  · rw [if_neg hfull, decide_eq_false hfull]
    exact ⟨rfl, rfl, rfl, rfl, fun _ => rfl⟩

/-!
## One step
-/

section Steps

variable (checks : Bool) (C : TcpHeaderCodec) (F : Plist.Format)

def Action.isV2 (a : Action) : Bool :=
  a.ofLoop.elim false (WriterLoop.Action.isV2 F)

def Action.received (a : Action) : Nat :=
  a.ofLoop.elim 0 WriterLoop.Action.received

def Action.endsPacket : Action -> Bool
  | .submitEnd _ _ => true
  | _ => false

/-- No write is held up, and the buffer has what is written of the packet. -/
structure Sound (u : BulkOutput) (n r : Nat) : Prop where
  tracks : WriterLoop.Tracks u.loop n r
  pending : u.writer.pending = none
  written : u.writer.buffer ++ u.phase.rest =
    u.phase.packet?.elim [] (UsbDevicePacket.encode C)
  short : forall packet, u.phase.packet? = some packet -> ShortPacket C packet

inductive Moves : BulkOutput -> Action -> BulkOutput -> Prop where
  | writes {u v : BulkOutput} {a : Action} (inside : a.endsPacket = false)
      (phase : v.phase.packet? = u.phase.packet?)
      (writer : v.writer = { u.writer with buffer := v.writer.buffer })
      (packets : v.loop.packets = u.loop.packets)
      (flushed : v.flushed = u.flushed) : Moves u a v
  | takes {u v : BulkOutput} {a : Action} (packet : UsbDevicePacket)
      (inside : a.endsPacket = false)
      (before : u.phase.packet? = none) (phase : v.phase.packet? = some packet)
      (writer : v.writer = u.writer)
      (packets : v.loop.packets = u.loop.packets ++ [packet])
      (flushed : v.flushed = u.flushed) : Moves u a v
  | ends {u : BulkOutput} (packet : UsbDevicePacket)
      (flushed ended : Except String Unit)
      (phase : u.phase.packet? = some packet)
      (buffer : u.writer.buffer = packet.encode C) :
      Moves u (.submitEnd flushed ended) (u.submitEnd packet flushed ended)

structure Does (n r : Nat) (u : BulkOutput) (a : Action) (v : BulkOutput) :
    Prop where
  sound : Sound C v (n + (a.isV2 F).toNat) (r + a.received)
  packets : v.loop.packets =
    u.loop.packets ++ WriterLoop.renumbered F n r a.ofLoop.toList
  moves : Moves C u a v

variable {checks C F} {u v : BulkOutput} {n r : Nat}

theorem sound_start (maxPacketSize : Nat) :
    Sound C (start C maxPacketSize) 0 0 where
  tracks := WriterLoop.tracks_start
  pending := rfl
  written := rfl
  short := by
    intro packet hpacket
    cases hpacket

theorem length_encode_renumber (packet : UsbDevicePacket) :
    ((WriterLoop.renumber n r packet).encode C).length =
      (packet.encode C).length := by
  have hheader : (WriterLoop.renumberHeader n r packet.header).size =
      packet.header.size := by
    cases packet.header with
    | v1 h => rfl
    | v2 h => rfl
  unfold UsbDevicePacket.encode
  simp only [List.length_append, UsbDevicePacketHeader.encode_length]
  exact congrArg (· + _ + _) hheader

theorem Does.of_writes (h : Sound C u n r) {a : Action}
    (hnone : a.ofLoop = none) (hinside : a.endsPacket = false)
    (hloop : v.loop = u.loop) (hflushed : v.flushed = u.flushed)
    (hphase : v.phase.packet? = u.phase.packet?)
    (hwriter : v.writer = { u.writer with buffer := v.writer.buffer })
    (hwritten : v.writer.buffer ++ v.phase.rest =
      u.writer.buffer ++ u.phase.rest) : Does C F n r u a v where
  sound := by
    unfold Action.isV2 Action.received
    rw [hnone]
    refine ⟨hloop ▸ h.tracks, ?_, ?_, ?_⟩
    · rw [hwriter]
      exact h.pending
    · rw [hwritten, hphase]
      exact h.written
    · rw [hphase]
      exact h.short
  packets := by
    rw [hloop, hnone]
    exact (List.append_nil _).symm
  moves := .writes hinside hphase hwriter
    (congrArg WriterLoop.packets hloop) hflushed

theorem receive_does (h : Sound C u n r) :
    Does C F n r u .receive
      { u with loop := { u.loop with recvSeq := u.loop.recvSeq + 1 } } where
  sound := by
    refine ⟨⟨h.tracks.hbuf, h.tracks.sendSeq, ?_⟩,
      h.pending, h.written, h.short⟩
    show u.loop.recvSeq + 1 = _
    rw [h.tracks.recvSeq, WriterLoop.ofNat_add_one]
    rfl
  packets := (List.append_nil _).symm
  moves := .writes rfl rfl rfl rfl rfl

theorem take_does (h : Sound C u n r) {build : UsbDevicePacket.Build}
    (hphase : u.phase = .receiving) (hshort : ShortPacket C (build.packet F))
    (htake : u.take checks C (build.packet F) = some v) :
    Does C F n r u (.take build) v := by
  rcases Option.bind_eq_some_iff.mp htake with ⟨⟨loop, packet⟩, hnumber, htake⟩
  rcases Option.map_eq_some_iff.mp htake with ⟨⟨hbuf, written⟩, hheader, rfl⟩
  rcases WriterLoop.number_eq_some h.tracks hnumber with
    ⟨htracks, rfl, hpackets, _⟩
  rcases WriterLoop.headerBytes_of_plain C
    ((WriterLoop.plain_packet F build).renumber (n + 1) r) htracks.hbuf with
    ⟨hbuf', hbytes, hlength⟩
  cases hbytes.symm.trans hheader
  have hempty : u.writer.buffer = [] := by
    have hwritten := h.written
    rw [hphase] at hwritten
    exact (List.append_eq_nil_iff.mp hwritten).left
  refine ⟨⟨⟨hlength, htracks.sendSeq, htracks.recvSeq⟩, h.pending, ?_, ?_⟩,
    hpackets, .takes _ rfl ?_ rfl rfl hpackets rfl⟩
  · show u.writer.buffer ++ _ = _
    rw [hempty]
    rfl
  · intro packet hpacket
    cases hpacket
    unfold ShortPacket
    rw [length_encode_renumber]
    exact hshort
  · rw [hphase]
    rfl

theorem writeRound_eq_some (h : Sound C u n r) {left : List UInt8}
    (later : List UInt8) {packet : UsbDevicePacket}
    (hpacket : u.phase.packet? = some packet)
    (hrest : u.phase.rest = left ++ later) (hleft : left ≠ [])
    (submitted : Submission) :
    writeRound u.writer left submitted =
      some ({ u.writer with buffer := u.writer.buffer ++ left },
        .ready (.ok [])) := by
  apply writeRound_of_short h.pending hleft
  have hwritten := h.written
  rw [hpacket, hrest] at hwritten
  have hlength := congrArg List.length hwritten
  have hlimit : (packet.encode C).length < _ := h.short packet hpacket
  rw [Option.elim_some] at hlength
  rw [← hlength, ← List.append_assoc, List.length_append] at hlimit
  exact Nat.lt_of_le_of_lt (Nat.le_add_right _ _) hlimit

theorem pollHeaders_does (h : Sound C u n r) {left : List UInt8}
    {packet : UsbDevicePacket} {submitted : Submission}
    (hphase : u.phase = .headers left packet)
    (hpoll : u.pollHeaders left packet submitted = some v) :
    Does C F n r u (.poll submitted) v := by
  unfold pollHeaders at hpoll
  by_cases hleft : left = []
  · rw [if_pos (List.isEmpty_iff.mpr hleft)] at hpoll
    cases hpoll
    refine Does.of_writes h rfl rfl rfl rfl ?_ rfl ?_
    · rw [hphase]
      rfl
    · rw [hphase, hleft]
      rfl
  · have hround := writeRound_eq_some h packet.payload.encode
      (by rw [hphase]; rfl) (by rw [hphase]; rfl) hleft submitted
    rw [if_neg (mt List.isEmpty_iff.mp hleft), hround] at hpoll
    cases hpoll
    refine Does.of_writes h rfl rfl rfl rfl ?_ rfl ?_
    · rw [hphase]
      rfl
    · rw [hphase]
      exact List.append_assoc _ _ _

theorem pollPayload_does (h : Sound C u n r) {left : List UInt8}
    {packet : UsbDevicePacket} {submitted : Submission}
    (hphase : u.phase = .payload left packet)
    (hpoll : u.pollPayload left packet submitted = some v) :
    Does C F n r u (.poll submitted) v := by
  rcases Machine.of_disabled_if hpoll with ⟨hleft, hpoll⟩
  have hround := writeRound_eq_some h []
    (by rw [hphase]; rfl) (by rw [hphase]; exact (List.append_nil _).symm)
    (mt List.isEmpty_iff.mpr hleft) submitted
  rw [hround] at hpoll
  cases hpoll
  refine Does.of_writes h rfl rfl rfl rfl ?_ rfl ?_
  · rw [hphase]
    rfl
  · rw [hphase]
    exact List.append_nil _

theorem submitEnd_does (h : Sound C u n r) {packet : UsbDevicePacket}
    (hphase : u.phase = .payload [] packet)
    (flushed ended : Except String Unit) :
    Does C F n r u (.submitEnd flushed ended)
      (u.submitEnd packet flushed ended) := by
  have hbuffer : u.writer.buffer = packet.encode C := by
    have hwritten := h.written
    rw [hphase] at hwritten
    exact (List.append_nil _).symm.trans hwritten
  have hne : u.writer.buffer ≠ [] := hbuffer ▸ encode_ne_nil packet
  have hwriter : (u.writer.submitEnd flushed ended).fst.buffer = [] ∧
      (u.writer.submitEnd flushed ended).fst.pending = none := by
    cases flushed with
    | error text =>
        rw [submitEnd_flushFails hne]
        exact ⟨rfl, h.pending⟩
    | ok done =>
        rcases submitEnd_flushed hne ended with ⟨_, hempty, hpending, _⟩
        exact ⟨hempty, hpending.trans h.pending⟩
  refine ⟨⟨h.tracks, hwriter.right, ?_, ?_⟩, (List.append_nil _).symm,
    .ends packet flushed ended ?_ hbuffer⟩
  · exact List.append_eq_nil_iff.mpr ⟨hwriter.left, rfl⟩
  · intro other hother
    cases hother
  · rw [hphase]
    rfl

theorem step_does (h : Sound C u n r) {a : Action} (hshort : a.Short C F)
    (hstep : step checks C F u a = some v) : Does C F n r u a v := by
  unfold step at hstep
  cases a with
  | receive =>
      cases hstep
      exact receive_does h
  | take build =>
      cases hphase : u.phase with
      | receiving =>
          rw [hphase] at hstep
          exact take_does h hphase hshort hstep
      | headers left packet =>
          rw [hphase] at hstep
          cases hstep
      | payload left packet =>
          rw [hphase] at hstep
          cases hstep
  | poll submitted =>
      cases hphase : u.phase with
      | receiving =>
          rw [hphase] at hstep
          cases hstep
      | headers left packet =>
          rw [hphase] at hstep
          exact pollHeaders_does h hphase hstep
      | payload left packet =>
          rw [hphase] at hstep
          exact pollPayload_does h hphase hstep
  | submitEnd flushed ended =>
      cases hphase : u.phase with
      | receiving =>
          rw [hphase] at hstep
          cases hstep
      | headers left packet =>
          rw [hphase] at hstep
          cases hstep
      | payload left packet =>
          rw [hphase] at hstep
          cases left with
          | nil =>
              cases hstep
              exact submitEnd_does h hphase flushed ended
          | cons byte left => cases hstep
  | settle rx =>
      rcases Machine.of_enabled_if hstep with ⟨hwaiting, _⟩
      cases h.pending.symm.trans hwaiting

end Steps

/-!
## Whole runs
-/

section Runs

variable (checks : Bool) (C : TcpHeaderCodec) (F : Plist.Format)

instance (a : Action) : Decidable (a.Short C F) :=
  match a with
  | .take build => inferInstanceAs
      (Decidable (((build.packet F).encode C).length < _))
  | .receive => .isTrue trivial
  | .poll _ => .isTrue trivial
  | .submitEnd _ _ => .isTrue trivial
  | .settle _ => .isTrue trivial

def shortStep : Machine BulkOutput Action := fun u a =>
  if a.Short C F then step checks C F u a else none

def Action.succeeds : Action -> Bool
  | .submitEnd flushed ended => flushed.isOk && ended.isOk
  | _ => true

/--
A packet is ended by an empty transfer if its last USB packet is full, where the
count may go back to packets before it.
-/
def EndsRight (u : BulkOutput) : Action -> Prop
  | .submitEnd flushed ended => forall packet, u.phase.packet? = some packet ->
      flushed.isOk = true ->
        (u.writer.maxPacketSize ∣ (packet.encode C).length <->
          u.writer.maxPacketSize ∣
              u.writer.currentTransferLen + (packet.encode C).length ∧
            ended.isOk = true)
  | _ => True

variable {checks C F} {u v : BulkOutput} {n r : Nat}

theorem shortStep_does (h : Sound C u n r) {a : Action}
    (hstep : shortStep checks C F u a = some v) : Does C F n r u a v := by
  rcases Machine.of_enabled_if hstep with ⟨hshort, hnext⟩
  exact step_does h hshort hnext

theorem Moves.maxPacketSize_eq {a : Action} (h : Moves C u a v) :
    v.writer.maxPacketSize = u.writer.maxPacketSize := by
  cases h with
  | writes _ _ hwriter =>
      rw [hwriter]
  | takes packet _ _ _ hwriter =>
      rw [hwriter]
  | ends packet flushed ended _ hbuffer =>
      have hne : u.writer.buffer ≠ [] := hbuffer ▸ encode_ne_nil packet
      unfold submitEnd
      cases flushed with
      | error text => rw [submitEnd_flushFails hne]
      | ok done => exact (submitEnd_flushed hne ended).right.right.right.left

theorem endsRight_of_inside {a : Action} (hinside : a.endsPacket = false) :
    EndsRight C u a := by
  cases a with
  | submitEnd flushed ended => cases hinside
  | receive => trivial
  | take build => trivial
  | poll submitted => trivial
  | settle rx => trivial

theorem Moves.delivered_iff {a : Action} (hmoves : Moves C u a v)
    (hsize : 0 < u.writer.maxPacketSize) (h : u.Delivered C) :
    v.Delivered C <-> EndsRight C u a := by
  have hsame := hmoves.maxPacketSize_eq
  unfold Delivered at h ⊢
  rw [hsame]
  cases hmoves with
  | writes hinside _ hwriter _ hflushed =>
      rw [hwriter, hflushed]
      exact iff_of_true h (endsRight_of_inside hinside)
  | takes packet hinside _ _ hwriter _ hflushed =>
      rw [hwriter, hflushed]
      exact iff_of_true h (endsRight_of_inside hinside)
  | ends packet flushed ended hphase hbuffer =>
      have hne : u.writer.buffer ≠ [] := hbuffer ▸ encode_ne_nil packet
      have hpacket : EndsRight C u (.submitEnd flushed ended) <->
          (flushed.isOk = true ->
            (u.writer.maxPacketSize ∣ u.writer.buffer.length <->
              u.writer.maxPacketSize ∣
                  u.writer.currentTransferLen + u.writer.buffer.length ∧
                ended.isOk = true)) := by
        rw [hbuffer]
        constructor
        · intro hends
          exact hends packet hphase
        · intro hends other hother
          cases hphase.symm.trans hother
          exact hends
      rw [hpacket]
      unfold submitEnd
      cases flushed with
      | error text =>
          rw [submitEnd_flushFails hne]
          refine iff_of_true ?_ (by intro hok; cases hok)
          simp only [Except.isOk, Except.toBool, Bool.false_eq_true, if_false,
            List.append_nil]
          exact h
      | ok done =>
          simp only [(submitEnd_flushed hne ended).left]
          have hone := ShortPackets.receiveAll_marked_iff hsize
            ((opening ++ u.flushed).map (UsbDevicePacket.encode C)) hne
            (decide (u.writer.maxPacketSize ∣
              u.writer.currentTransferLen + u.writer.buffer.length) &&
                ended.isOk)
          have hadded : (opening ++ (u.flushed ++ [packet])).map
              (UsbDevicePacket.encode C) =
                (opening ++ u.flushed).map (UsbDevicePacket.encode C) ++
                  [u.writer.buffer] := by
            rw [hbuffer, ← List.append_assoc]
            exact List.map_append
          rw [Bool.and_eq_true, decide_eq_true_iff] at hone
          rw [ShortPackets.receiveAll_append, h]
          refine hadded ▸ hone.trans ?_
          exact ⟨fun hends _ => hends, fun hends => hends rfl⟩

theorem delivered_start_iff {maxPacketSize : Nat} (hsize : 0 < maxPacketSize) :
    (start C maxPacketSize).Delivered C <-> EndsOpening C maxPacketSize := by
  have hversion := encode_ne_nil (C := C) versionPacket
  have hsetup := encode_ne_nil (C := C) setupPacket
  have hends : EndsOpening C maxPacketSize <->
      ¬ maxPacketSize ∣ (versionPacket.encode C).length ∧
        ¬ maxPacketSize ∣ (setupPacket.encode C).length := by
    simp [EndsOpening, opening]
  have hdelivered : (start C maxPacketSize).Delivered C <->
      ShortPackets.receiveAll maxPacketSize
          (ShortPackets.receiveAll maxPacketSize {} [versionPacket.encode C])
          [setupPacket.encode C] =
        { messages := [versionPacket.encode C, setupPacket.encode C] } := by
    rw [← ShortPackets.receiveAll_append]
    rfl
  rw [hends, hdelivered, ShortPackets.receiveAll_transfer hsize _ hversion]
  by_cases hfirst : maxPacketSize ∣ (versionPacket.encode C).length
  · rw [if_pos hfirst, ShortPackets.receiveAll_transfer hsize _ hsetup]
    split <;> simp [hfirst]
  · rw [if_neg hfirst, ShortPackets.receiveAll_transfer hsize _ hsetup]
    split <;> simp [*]

/--
Of short packets, the device gets the flushed ones and nothing else at all times
exactly if no packet of the opening fills its last USB packet and every flushed
packet is ended as its own length requires.
-/
theorem delivered_throughout_iff {maxPacketSize : Nat}
    (hsize : 0 < maxPacketSize) (actions : List Action) :
    Machine.Throughout (shortStep checks C F) (Delivered C)
        (start C maxPacketSize) actions <->
      EndsOpening C maxPacketSize ∧
        Machine.Guarded (shortStep checks C F) (EndsRight C)
          (start C maxPacketSize) actions := by
  by_cases hopening : EndsOpening C maxPacketSize
  · rw [and_iff_right hopening]
    refine Machine.throughout_iff_guarded
      (J := fun u => (exists n r, Sound C u n r) ∧
        0 < u.writer.maxPacketSize ∧ u.Delivered C)
      (fun u h => h.right.right) ?_ ?_
      ⟨⟨0, 0, sound_start maxPacketSize⟩, hsize,
        (delivered_start_iff hsize).mpr hopening⟩
      actions
    · rintro u a v ⟨⟨n, r, hsound⟩, hpos, hdelivered⟩ hstep hends
      have hdoes := shortStep_does hsound hstep
      refine ⟨⟨_, _, hdoes.sound⟩, ?_, ?_⟩
      · rw [hdoes.moves.maxPacketSize_eq]
        exact hpos
      · exact (hdoes.moves.delivered_iff hpos hdelivered).mpr hends
    · rintro u a v ⟨⟨n, r, hsound⟩, hpos, hdelivered⟩ hstep hends hafter
      have hdoes := shortStep_does hsound hstep
      exact hends ((hdoes.moves.delivered_iff hpos hdelivered).mp hafter)
  · refine iff_of_false ?_ fun h => hopening h.left
    intro h
    exact hopening ((delivered_start_iff hsize).mp
      (h [] _ List.nil_prefix rfl))

structure Complete (C : TcpHeaderCodec) (u : BulkOutput) : Prop where
  packets : u.flushed ++ u.phase.packet?.toList = u.loop.packets
  counted : u.writer.currentTransferLen = if u.flushed = [] then 37 else 0

theorem complete_start (maxPacketSize : Nat) :
    Complete C (start C maxPacketSize) :=
  ⟨rfl, rfl⟩

theorem Complete.step (h : Complete C u) {a : Action} (hmoves : Moves C u a v)
    (hsucceeds : a.succeeds = true) : Complete C v := by
  cases hmoves with
  | writes _ hphase hwriter hpackets hflushed =>
      refine ⟨?_, ?_⟩
      · rw [hflushed, hphase, hpackets]
        exact h.packets
      · rw [hwriter, hflushed]
        exact h.counted
  | takes packet _ hbefore hphase hwriter hpackets hflushed =>
      refine ⟨?_, ?_⟩
      · rw [hflushed, hphase, hpackets, ← h.packets, hbefore]
        simp
      · rw [hwriter, hflushed]
        exact h.counted
  | ends packet flushed ended hphase hbuffer =>
      have hne : u.writer.buffer ≠ [] := hbuffer ▸ encode_ne_nil packet
      rcases Bool.and_eq_true_iff.mp hsucceeds with ⟨hflushed, hended⟩
      cases flushed with
      | error text => cases hflushed
      | ok done =>
          have hone : u.flushed ++ [packet] ≠ [] :=
            List.append_ne_nil_of_right_ne_nil _ (List.cons_ne_nil _ _)
          refine ⟨?_, ?_⟩
          · have hpackets := h.packets
            rw [hphase] at hpackets
            exact (List.append_nil _).trans hpackets
          · refine Eq.trans ?_ (if_neg hone).symm
            exact (submitEnd_flushed hne ended).right.right.right.right hended

theorem Moves.flushed_prefix {a : Action} (h : Moves C u a v) :
    u.flushed <+: v.flushed := by
  cases h with
  | writes _ _ _ _ hflushed => exact hflushed ▸ List.prefix_refl _
  | takes packet _ _ _ _ _ hflushed => exact hflushed ▸ List.prefix_refl _
  | ends packet flushed ended _ _ => exact List.prefix_append _ _

theorem firstFits_congr {maxPacketSize : Nat}
    {first flushed : List UsbDevicePacket} (hfirst : first <+: flushed)
    (hne : first ≠ []) :
    FirstFits C maxPacketSize flushed <-> FirstFits C maxPacketSize first := by
  rcases hfirst with ⟨later, rfl⟩
  unfold FirstFits
  rw [List.head?_append_of_ne_nil _ hne]

theorem firstFits_nil (maxPacketSize : Nat) :
    FirstFits C maxPacketSize [] := by
  intro packet hpacket
  cases hpacket

theorem ne_nil_or_firstFits (maxPacketSize : Nat)
    (flushed : List UsbDevicePacket) :
    flushed ≠ [] ∨ FirstFits C maxPacketSize flushed := by
  cases flushed with
  | nil => exact Or.inr (firstFits_nil maxPacketSize)
  | cons packet later => exact Or.inl (List.cons_ne_nil packet later)

theorem endsRight_iff (h : Complete C u) {a : Action} (hmoves : Moves C u a v)
    (hsucceeds : a.succeeds = true) :
    EndsRight C u a <->
      (u.flushed ≠ [] ∨ FirstFits C u.writer.maxPacketSize v.flushed) := by
  have hinside : a.endsPacket = false -> v.flushed = u.flushed ->
      (EndsRight C u a <->
        (u.flushed ≠ [] ∨ FirstFits C u.writer.maxPacketSize v.flushed)) := by
    intro hinside hflushed
    rw [hflushed]
    exact iff_of_true (endsRight_of_inside hinside) (ne_nil_or_firstFits _ _)
  cases hmoves with
  | writes hin _ _ _ hflushed => exact hinside hin hflushed
  | takes packet hin _ _ _ _ hflushed => exact hinside hin hflushed
  | ends packet flushed ended hphase hbuffer =>
      rcases Bool.and_eq_true_iff.mp hsucceeds with ⟨hflushed, hended⟩
      have hpacket : EndsRight C u (.submitEnd flushed ended) <->
          (u.writer.maxPacketSize ∣ (packet.encode C).length <->
            u.writer.maxPacketSize ∣
              u.writer.currentTransferLen + (packet.encode C).length) := by
        constructor
        · intro hends
          exact (hends packet hphase hflushed).trans (and_iff_left hended)
        · intro hends other hother _
          cases hphase.symm.trans hother
          exact hends.trans (and_iff_left hended).symm
      rw [hpacket, h.counted]
      unfold submitEnd
      rw [if_pos hflushed]
      by_cases hnone : u.flushed = []
      · rw [if_pos hnone, hnone]
        simp [FirstFits]
      · rw [if_neg hnone, Nat.zero_add]
        exact iff_of_true Iff.rfl (Or.inl hnone)

theorem renumbered_filterMap (n r : Nat) (a : Action) (rest : List Action) :
    WriterLoop.renumbered F n r ((a :: rest).filterMap Action.ofLoop) =
      WriterLoop.renumbered F n r a.ofLoop.toList ++
        WriterLoop.renumbered F (n + (a.isV2 F).toNat) (r + a.received)
          (rest.filterMap Action.ofLoop) := by
  unfold Action.isV2 Action.received
  cases hloop : a.ofLoop with
  | none =>
      rw [List.filterMap_cons_none hloop]
      rfl
  | some b =>
      rw [List.filterMap_cons_some hloop, WriterLoop.renumbered_cons]
      rfl

theorem run_complete {actions : List Action} (h : Sound C u n r)
    (hcomplete : Complete C u)
    (hsucceeds : forall a, a ∈ actions -> a.succeeds = true)
    (hrun : Machine.run (shortStep checks C F) u actions = some v) :
    (exists m q, Sound C v m q) ∧ Complete C v ∧
      v.loop.packets = u.loop.packets ++
        WriterLoop.renumbered F n r (actions.filterMap Action.ofLoop) ∧
      u.flushed <+: v.flushed := by
  induction actions generalizing u n r with
  | nil =>
      cases hrun
      exact ⟨⟨n, r, h⟩, hcomplete, (List.append_nil _).symm,
        List.prefix_refl _⟩
  | cons a rest ih =>
      rcases Machine.run_cons_some hrun with ⟨t, hstep, hrest⟩
      have hdoes := shortStep_does h hstep
      have hnext := hcomplete.step hdoes.moves (hsucceeds a List.mem_cons_self)
      rcases ih hdoes.sound hnext
        (fun b hb => hsucceeds b (List.mem_cons_of_mem a hb)) hrest with
        ⟨hsound, hlast, hpackets, hflushed⟩
      refine ⟨hsound, hlast, ?_, hdoes.moves.flushed_prefix.trans hflushed⟩
      rw [hpackets, hdoes.packets, renumbered_filterMap, List.append_assoc]

theorem guarded_iff {actions : List Action} (h : Sound C u n r)
    (hcomplete : Complete C u)
    (hsucceeds : forall a, a ∈ actions -> a.succeeds = true)
    (hrun : Machine.run (shortStep checks C F) u actions = some v) :
    Machine.Guarded (shortStep checks C F) (EndsRight C) u actions <->
      (u.flushed ≠ [] ∨ FirstFits C u.writer.maxPacketSize v.flushed) := by
  induction actions generalizing u n r with
  | nil =>
      cases hrun
      exact iff_of_true (Machine.guarded_nil _ _ _) (ne_nil_or_firstFits _ _)
  | cons a rest ih =>
      rcases Machine.run_cons_some hrun with ⟨t, hstep, hrest⟩
      have hdoes := shortStep_does h hstep
      have hsucceed := hsucceeds a List.mem_cons_self
      have hlater : forall b, b ∈ rest -> b.succeeds = true :=
        fun b hb => hsucceeds b (List.mem_cons_of_mem a hb)
      have hnext := hcomplete.step hdoes.moves hsucceed
      have hends := endsRight_iff hcomplete hdoes.moves hsucceed
      have htail := ih hdoes.sound hnext hlater hrest
      have hgrows := (run_complete hdoes.sound hnext hlater
        hrest).right.right.right
      rw [hdoes.moves.maxPacketSize_eq] at htail
      have hsplit : Machine.Guarded (shortStep checks C F) (EndsRight C) u
          (a :: rest) <-> EndsRight C u a ∧
            Machine.Guarded (shortStep checks C F) (EndsRight C) t rest := by
        rw [Machine.guarded_cons]
        constructor
        · intro hall
          exact hall t hstep
        · intro hboth w hw
          cases hstep.symm.trans hw
          exact hboth
      rw [hsplit, hends, htail]
      by_cases hnone : t.flushed = []
      · have hbefore : u.flushed = [] :=
          List.prefix_nil.mp (hnone ▸ hdoes.moves.flushed_prefix)
        rw [hnone, hbefore]
        simp [firstFits_nil]
      · rw [firstFits_congr hgrows hnone]
        simp [hnone]

/-- What ends a packet: the loop polls its writes, and the transfers succeed. -/
def Action.Finishes : Action -> Prop
  | .poll _ => True
  | .submitEnd flushed ended => flushed = .ok () ∧ ended = .ok ()
  | _ => False

/-- The loop comes back to its channel in a number of steps. -/
def Finishes (checks : Bool) (C : TcpHeaderCodec) (F : Plist.Format)
    (u : BulkOutput) (steps : Nat) : Prop :=
  exists rest v, rest.length <= steps ∧ (forall a, a ∈ rest -> a.Finishes) ∧
    Machine.run (shortStep checks C F) u rest = some v ∧
    v.phase.packet? = none

theorem Finishes.cons {a : Action} {steps : Nat} (hfinishes : a.Finishes)
    (hstep : shortStep checks C F u a = some v)
    (h : Finishes checks C F v steps) : Finishes checks C F u (steps + 1) := by
  rcases h with ⟨rest, t, hlength, hrest, hrun, hphase⟩
  refine ⟨a :: rest, t, Nat.succ_le_succ hlength, ?_,
    (Machine.run_cons_of_step hstep rest).trans hrun, hphase⟩
  intro b hb
  rcases List.mem_cons.mp hb with rfl | hb
  · exact hfinishes
  · exact hrest b hb

theorem Finishes.mono {few many : Nat} (h : Finishes checks C F u few)
    (hle : few <= many) : Finishes checks C F u many := by
  rcases h with ⟨rest, t, hlength, hrest⟩
  exact ⟨rest, t, hlength.trans hle, hrest⟩

def again : Action :=
  .poll (.ok .waiting)

theorem finishes_again : again.Finishes :=
  trivial

theorem finishes_payload_nil {packet : UsbDevicePacket}
    (hphase : u.phase = .payload [] packet) : Finishes checks C F u 1 := by
  have hstep : shortStep checks C F u (.submitEnd (.ok ()) (.ok ())) =
      some (u.submitEnd packet (.ok ()) (.ok ())) := by
    show step checks C F u _ = _
    unfold step
    rw [hphase]
  have hends : (Action.submitEnd (.ok ()) (.ok ())).Finishes := ⟨rfl, rfl⟩
  refine Finishes.cons hends hstep ⟨[], _, Nat.le_refl 0, ?_, rfl, rfl⟩
  intro b hb
  cases hb

theorem finishes_payload (h : Sound C u n r) {left : List UInt8}
    {packet : UsbDevicePacket} (hphase : u.phase = .payload left packet) :
    Finishes checks C F u 2 := by
  by_cases hleft : left = []
  · exact (finishes_payload_nil (hleft ▸ hphase)).mono (Nat.le_succ 1)
  · have hround := writeRound_eq_some h []
      (by rw [hphase]; rfl) (by rw [hphase]; exact (List.append_nil _).symm)
      hleft (.ok .waiting)
    have hstep : shortStep checks C F u again = some { u with
        writer := { u.writer with buffer := u.writer.buffer ++ left }
        phase := .payload [] packet } := by
      show step checks C F u again = _
      unfold step again
      rw [hphase]
      show u.pollPayload left packet _ = _
      unfold pollPayload
      rw [if_neg (mt List.isEmpty_iff.mp hleft), hround]
      rfl
    exact Finishes.cons finishes_again hstep (finishes_payload_nil rfl)

theorem finishes_headers_nil (h : Sound C u n r) {packet : UsbDevicePacket}
    (hphase : u.phase = .headers [] packet) : Finishes checks C F u 3 := by
  have hpoll : u.pollHeaders [] packet (.ok .waiting) =
      some { u with phase := .payload packet.payload.encode packet } := rfl
  have hstep : shortStep checks C F u again =
      some { u with phase := .payload packet.payload.encode packet } := by
    show step checks C F u again = _
    unfold step again
    rw [hphase]
    exact hpoll
  have hnext := pollHeaders_does (F := F) h hphase hpoll
  exact Finishes.cons finishes_again hstep (finishes_payload hnext.sound rfl)

theorem finishes (h : Sound C u n r) : Finishes checks C F u 4 := by
  cases hphase : u.phase with
  | receiving =>
      refine ⟨[], u, Nat.zero_le 4, ?_, rfl, ?_⟩
      · intro b hb
        cases hb
      · rw [hphase]
        rfl
  | payload left packet =>
      exact (finishes_payload h hphase).mono (by decide)
  | headers left packet =>
      by_cases hleft : left = []
      · exact (finishes_headers_nil h (hleft ▸ hphase)).mono (by decide)
      · have hround := writeRound_eq_some h packet.payload.encode
          (by rw [hphase]; rfl) (by rw [hphase]; rfl) hleft (.ok .waiting)
        have hpoll : u.pollHeaders left packet (.ok .waiting) = some { u with
            writer := { u.writer with buffer := u.writer.buffer ++ left }
            phase := .headers [] packet } := by
          unfold pollHeaders
          rw [if_neg (mt List.isEmpty_iff.mp hleft), hround]
          rfl
        have hstep : shortStep checks C F u again = some { u with
            writer := { u.writer with buffer := u.writer.buffer ++ left }
            phase := .headers [] packet } := by
          show step checks C F u again = _
          unfold step again
          rw [hphase]
          exact hpoll
        have hnext := pollHeaders_does (F := F) h hphase hpoll
        exact Finishes.cons finishes_again hstep
          (finishes_headers_nil hnext.sound rfl)

/--
If no transfer fails, short packets reach the device as they were taken from the
channel, with their numbers and each as a message of its own, at all times
exactly if the first one fits behind the opening; and the loop is never held up.
-/
theorem packets_delivered {maxPacketSize : Nat} (hsize : 0 < maxPacketSize)
    (hopening : EndsOpening C maxPacketSize) {actions : List Action}
    (hsucceeds : forall a, a ∈ actions -> a.succeeds = true)
    (hrun : Machine.run (shortStep checks C F) (start C maxPacketSize) actions =
      some u) :
    (Machine.Throughout (shortStep checks C F) (Delivered C)
        (start C maxPacketSize) actions <->
      FirstFits C maxPacketSize u.flushed) ∧
      u.flushed ++ u.phase.packet?.toList =
        WriterLoop.renumbered F 0 0 (actions.filterMap Action.ofLoop) ∧
      Finishes checks C F u 4 := by
  have hsound : Sound C (start C maxPacketSize) 0 0 := sound_start maxPacketSize
  have hcomplete := complete_start (C := C) maxPacketSize
  rcases run_complete hsound hcomplete hsucceeds hrun with
    ⟨⟨m, q, hlast⟩, hcompleted, hpackets, _⟩
  refine ⟨?_, hcompleted.packets.trans hpackets, finishes hlast⟩
  rw [delivered_throughout_iff hsize, and_iff_right hopening,
    guarded_iff hsound hcomplete hsucceeds hrun]
  exact or_iff_right fun hne => hne rfl

end Runs

/-!
A version packet and half of a setup packet, to a device with USB packets of
eight bytes.
-/

def versionThenSetup : List Action :=
  [.take (.version 2 0), again, again, again, .submitEnd (.ok ()) (.ok ()),
    .receive, .take (.setup [7]), again]

def midSetup : BulkOutput :=
  (Machine.run (shortStep true .standard UsbDevicePacket.withoutPlists)
    (start .standard 8) versionThenSetup).getD (start .standard 8)

theorem run_versionThenSetup :
    Machine.run (shortStep true .standard UsbDevicePacket.withoutPlists)
      (start .standard 8) versionThenSetup = some midSetup := rfl

theorem packets_delivered_versionThenSetup :
    (Machine.Throughout
        (shortStep true .standard UsbDevicePacket.withoutPlists)
        (Delivered .standard) (start .standard 8) versionThenSetup <->
      FirstFits .standard 8 midSetup.flushed) ∧
      midSetup.flushed ++ midSetup.phase.packet?.toList =
        WriterLoop.renumbered UsbDevicePacket.withoutPlists 0 0
          (versionThenSetup.filterMap Action.ofLoop) ∧
      Finishes true .standard UsbDevicePacket.withoutPlists midSetup 4 :=
  packets_delivered (by decide) (endsOpening_of_dvd .standard (by decide))
    (by decide) run_versionThenSetup

def lostVersion : List Action :=
  [.take (.version 2 0), again, again, again,
    .submitEnd (.error "Input/Output Error") (.ok ()),
    .take (.version 2 0), again, again, again, .submitEnd (.ok ()) (.ok ())]

theorem delivered_throughout_iff_lostVersion :
    Machine.Throughout (shortStep true .standard UsbDevicePacket.withoutPlists)
        (Delivered .standard) (start .standard 40) lostVersion <->
      EndsOpening .standard 40 ∧
        Machine.Guarded
          (shortStep true .standard UsbDevicePacket.withoutPlists)
          (EndsRight .standard) (start .standard 40) lostVersion :=
  delivered_throughout_iff (by decide) lostVersion

end BulkOutput

end Device
end Rusbmux
