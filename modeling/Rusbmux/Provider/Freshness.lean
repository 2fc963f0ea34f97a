import Mathlib.Data.List.Forall2
import Mathlib.Data.List.Infix
import Rusbmux.Conn.Sequence
import Rusbmux.Provider.ReadExact

/-!
# The numbers of the packets of a stream

A packet of the provider's stream is built with the counters of its connection,
and a flag is put on the channel in the same poll.  A data packet may be parked
first.  The bytes sent do not change while it waits, but a read may take a
packet off the receive channel and acknowledge it, so that the parked packet,
when its turn comes, still acknowledges what had been received when it was built.
-/

namespace Rusbmux
namespace Provider

open Foundation
open Rusbmux.Parser

def Numbered (base : UInt32) (dequeued before : List UsbDevicePacket)
    (packet : UsbDevicePacket) : Prop :=
  packet.tcpHdr.map
      (fun tcpHdr => (tcpHdr.sequenceNumber, tcpHdr.acknowledgmentNumber)) =
    some (base + .ofNat (payloadTotal before),
      1 + .ofNat (payloadTotal dequeued))

instance (base : UInt32) (dequeued before : List UsbDevicePacket)
    (packet : UsbDevicePacket) :
    Decidable (Numbered base dequeued before packet) :=
  inferInstanceAs (Decidable (_ = _))

def NumberedAll (base : UInt32) (dequeued : List UsbDevicePacket) :
    List UsbDevicePacket -> List UsbDevicePacket -> Prop
  | _, [] => True
  | before, packet :: rest =>
      Numbered base dequeued before packet ∧
        NumberedAll base dequeued (before ++ [packet]) rest

def Acks (packet : UsbDevicePacket) (received : UInt32) : Prop :=
  packet.tcpHdr.map TcpHeader.acknowledgmentNumber = some received

/-- The device numbers its packets by the payload bytes before them. -/
def InOrder (packets : List UsbDevicePacket) : Prop :=
  forall before packet, before ++ [packet] <+: packets ->
    exists tcpHdr, packet.tcpHdr = some tcpHdr ∧
      tcpHdr.sequenceNumber = 1 + .ofNat (payloadTotal before)

def RoundsAll {sigma alpha : Type}
    (round : sigma -> ChannelAnswers -> sigma × Round alpha)
    (R : sigma -> sigma -> Prop) : sigma -> List ChannelAnswers -> Prop
  | _, [] => True
  | s, io :: rest =>
      R s (round s io).fst ∧
        ((round s io).snd = .again -> RoundsAll round R (round s io).fst rest)

namespace RusbmuxStream

/--
What a round has enqueued carries the right numbers.  A round takes a packet off
the receive channel only after that.
-/
def FreshRound (base : UInt32) (s t : RusbmuxStream) : Prop :=
  NumberedAll base s.readStream s.writeSink
    (t.writeSink.drop s.writeSink.length)

structure Counts (base : UInt32) (s : RusbmuxStream) : Prop where
  sent : s.conn.sentBytes = base + .ofNat (payloadTotal s.writeSink)
  received : s.conn.receivedBytes = 1 + .ofNat (payloadTotal s.readStream)
  parked : forall packet, s.writePacket = some packet ->
    exists tcpHdr, packet.tcpHdr = some tcpHdr ∧
      tcpHdr.sequenceNumber = s.conn.sentBytes

section

variable {base : UInt32} {s t : RusbmuxStream}

theorem freshRound_append {packets : List UsbDevicePacket}
    (hsink : t.writeSink = s.writeSink ++ packets) :
    FreshRound base s t <->
      NumberedAll base s.readStream s.writeSink packets := by
  unfold FreshRound
  rw [hsink, List.drop_left]

theorem numbered_flag (h : Counts base s) (tcpFlag : TcpFlags) :
    Numbered base s.readStream s.writeSink (s.conn.buildFlag tcpFlag) := by
  show some (s.conn.sentBytes, s.conn.receivedBytes) = _
  rw [h.sent, h.received]

theorem payloadTotal_flag (packets : List UsbDevicePacket)
    (conn : UsbDeviceConn) (tcpFlag : TcpFlags) :
    payloadTotal (packets ++ [conn.buildFlag tcpFlag]) =
      payloadTotal packets := by
  rw [payloadTotal_append_singleton]
  rfl

theorem numbered_parked_iff (h : Counts base s) {packet : UsbDevicePacket}
    (hpacket : s.writePacket = some packet) {before : List UsbDevicePacket}
    (hbefore : payloadTotal before = payloadTotal s.writeSink) :
    Numbered base s.readStream before packet <->
      Acks packet s.conn.receivedBytes := by
  rcases h.parked packet hpacket with ⟨tcpHdr, htcp, hsequence⟩
  unfold Numbered Acks
  rw [htcp, hbefore, ← h.sent, ← h.received, Option.map_some, Option.map_some,
    hsequence, Option.some_inj, Option.some_inj, Prod.mk.injEq]
  constructor
  · intro hboth
    exact hboth.right
  · intro hack
    exact ⟨rfl, hack⟩

/-!
## The counters
-/

theorem counts_sendFlag (h : Counts base s) (tcpFlag : TcpFlags)
    (answer : SendAnswer) :
    Counts base (s.pollSendFlag tcpFlag answer).fst := by
  cases answer with
  | sent =>
      constructor
      · show s.conn.sentBytes = base + .ofNat
          (payloadTotal (s.writeSink ++ [s.conn.buildFlag tcpFlag]))
        rw [payloadTotal_flag]
        exact h.sent
      · exact h.received
      · exact h.parked
  | full => exact h
  | disconnected => exact h

theorem counts_recv (h : Counts base s) {packet : UsbDevicePacket}
    {tcpHdr : TcpHeader} (htcp : packet.tcpHdr = some tcpHdr)
    (hnumber : tcpHdr.sequenceNumber =
      1 + .ofNat (payloadTotal s.readStream)) :
    Counts base (s.pollRecv (.item packet)).fst := by
  have hsame : (s.conn.updateStates packet).sentBytes = s.conn.sentBytes := by
    unfold UsbDeviceConn.updateStates
    rw [htcp]
  constructor
  · exact hsame.trans h.sent
  · show (s.conn.updateStates packet).receivedBytes =
      1 + .ofNat (payloadTotal (s.readStream ++ [packet]))
    rw [UsbDeviceConn.updateStates_receivedBytes,
      UsbDeviceConn.receivedAfter, htcp, ofNat_payloadTotal_append, ← hnumber]
  · intro parked hparked
    show exists tcpHdr, _ ∧ _ = (s.conn.updateStates packet).sentBytes
    rw [hsame]
    exact h.parked parked hparked

theorem counts_sendPending (h : Counts base s) {packet : UsbDevicePacket}
    (hpacket : s.writePacket = some packet) (answer : SendAnswer) :
    Counts base ({ s with writePacket := none }.pollSendPending packet
      answer).fst := by
  cases answer with
  | sent =>
      constructor
      · show s.conn.sentBytes + .ofNat packet.payload.len =
          base + .ofNat (payloadTotal (s.writeSink ++ [packet]))
        rw [ofNat_payloadTotal_append, h.sent]
      · exact h.received
      · intro parked hparked
        cases hparked
  | full =>
      constructor
      · exact h.sent
      · exact h.received
      · intro parked hparked
        exact h.parked parked (hpacket.trans hparked)
  | disconnected =>
      constructor
      · exact h.sent
      · exact h.received
      · intro parked hparked
        cases hparked

theorem counts_build (h : Counts base s) (n : Nat) (buf : List UInt8) :
    Counts base { s with
      lastWriteLen := n
      writePacket := some (s.conn.buildBytes (buf.take n)) } where
  sent := h.sent
  received := h.received
  parked := by
    intro packet hbuilt
    cases hbuilt
    exact ⟨_, rfl, rfl⟩

/-!
## What is received
-/

def Tracks (base : UInt32) (all : List UsbDevicePacket) (s : RusbmuxStream) :
    Prop :=
  s.readStream <+: all -> Counts base s

theorem tracks_recv {all : List UsbDevicePacket} (horder : InOrder all)
    (h : Tracks base all s) (answer : RecvAnswer) :
    Tracks base all (s.pollRecv answer).fst := by
  cases answer with
  | item packet =>
      intro hsoFar
      rcases horder s.readStream packet hsoFar with ⟨tcpHdr, htcp, hnumber⟩
      have hcounts := h ((List.prefix_append _ _).trans hsoFar)
      exact counts_recv hcounts htcp hnumber
  | disconnected => exact h
  | pending => exact h

theorem readStream_sendFlag (s : RusbmuxStream) (tcpFlag : TcpFlags)
    (answer : SendAnswer) :
    (s.pollSendFlag tcpFlag answer).fst.readStream = s.readStream := by
  cases answer with
  | sent => rfl
  | full => rfl
  | disconnected => rfl

theorem readStream_sendPending (s : RusbmuxStream) (packet : UsbDevicePacket)
    (answer : SendAnswer) :
    (s.pollSendPending packet answer).fst.readStream = s.readStream := by
  cases answer with
  | sent => rfl
  | full => rfl
  | disconnected => rfl

theorem readStream_recv (s : RusbmuxStream) (answer : RecvAnswer) :
    s.readStream <+: (s.pollRecv answer).fst.readStream := by
  cases answer with
  | item packet => exact List.prefix_append _ _
  | disconnected => exact List.prefix_refl _
  | pending => exact List.prefix_refl _

theorem tracks_sendFlag {all : List UsbDevicePacket} (h : Tracks base all s)
    (tcpFlag : TcpFlags) (answer : SendAnswer) :
    Tracks base all (s.pollSendFlag tcpFlag answer).fst := by
  unfold Tracks
  rw [readStream_sendFlag]
  intro hsoFar
  exact counts_sendFlag (h hsoFar) tcpFlag answer

theorem tracks_sendPending {all : List UsbDevicePacket} (h : Tracks base all s)
    {packet : UsbDevicePacket} (hpacket : s.writePacket = some packet)
    (answer : SendAnswer) :
    Tracks base all
      ({ s with writePacket := none }.pollSendPending packet answer).fst := by
  unfold Tracks
  rw [readStream_sendPending]
  intro hsoFar
  exact counts_sendPending (h hsoFar) hpacket answer

theorem callsKeep_tracks {all : List UsbDevicePacket} (horder : InOrder all) :
    CallsKeep (Tracks base all) where
  ack := fun _ answer h => tracks_sendFlag h .ack answer
  recv := fun _ answer h => tracks_recv horder h answer
  handOut := fun _ _ h hsoFar =>
    ⟨(h hsoFar).sent, (h hsoFar).received, (h hsoFar).parked⟩
  pending := fun _ _ answer hpacket h => tracks_sendPending h hpacket answer
  build := fun _ buf h hsoFar => counts_build (h hsoFar) _ buf
  rst := fun _ answer h => tracks_sendFlag h .rst answer
  dropped := fun _ h hsoFar =>
    ⟨(h hsoFar).sent, (h hsoFar).received, (h hsoFar).parked⟩

theorem callsKeep_grows (packets : List UsbDevicePacket) :
    CallsKeep fun s => packets <+: s.readStream where
  ack := by
    intro s answer h
    rw [readStream_sendFlag]
    exact h
  recv := fun s answer h => h.trans (readStream_recv s answer)
  handOut := fun _ _ h => h
  pending := by
    intro s packet answer _ h
    rw [readStream_sendPending]
    exact h
  build := fun _ _ h => h
  rst := by
    intro s answer h
    rw [readStream_sendFlag]
    exact h
  dropped := fun _ h => h

theorem grows_writeRound (buf : List UInt8) (s : RusbmuxStream)
    (io : ChannelAnswers) :
    s.readStream <+: (pollWriteRound buf s io).fst.readStream :=
  (callsKeep_grows s.readStream).writeRound buf s io (List.prefix_refl _)

theorem grows_readRound (r : RusbmuxStream × ReadBuf) (io : ChannelAnswers) :
    r.fst.readStream <+: (pollReadRound r io).fst.fst.readStream :=
  (callsKeep_grows r.fst.readStream).readRound r io (List.prefix_refl _)

/-!
## What a round of a write enqueues
-/

def acked (s : RusbmuxStream) (io : ChannelAnswers) : List UsbDevicePacket :=
  if s.needAck = true ∧ io.flag = .sent then [s.conn.buildFlag .ack] else []

theorem writeSink_writePacket (s : RusbmuxStream) (buf : List UInt8)
    (io : ChannelAnswers) :
    (s.pollWritePacket buf io).fst.writeSink = s.writeSink ++
      (if io.packet = .sent then s.writePacket else none).toList := by
  unfold pollWritePacket
  cases hpacket : s.writePacket with
  | some packet =>
      cases io.packet with
      | sent => rfl
      | full => exact (List.append_nil _).symm
      | disconnected => exact (List.append_nil _).symm
  | none =>
      rw [ite_self]
      simp only [Option.toList_none, List.append_nil]
      split
      · cases io.item with
        | item packet => rfl
        | disconnected => rfl
        | pending => rfl
      · rfl

theorem writeSink_writeRound (s : RusbmuxStream) (buf : List UInt8)
    (io : ChannelAnswers) :
    (pollWriteRound buf s io).fst.writeSink =
      s.writeSink ++ (s.acked io ++ (s.resumes io).toList) := by
  unfold pollWriteRound acked resumes
  cases s.needAck with
  | false =>
      simp only [Bool.false_eq_true, if_false, false_and, false_implies,
        true_and, List.nil_append]
      exact writeSink_writePacket s buf io
  | true =>
      cases io.flag with
      | sent =>
          simp only [if_true, and_self, implies_true, true_and]
          show (pollWritePacket _ buf io).fst.writeSink = _
          rw [writeSink_writePacket, ← List.append_assoc]
      | full =>
          simp only [if_true, reduceCtorEq, and_false, if_false, true_implies,
            false_and, Option.toList_none, List.append_nil]
          rfl
      | disconnected =>
          simp only [if_true, reduceCtorEq, and_false, if_false, true_implies,
            false_and, Option.toList_none, List.append_nil]
          rfl

theorem freshRound_write_iff (h : Counts base s) (buf : List UInt8)
    (io : ChannelAnswers) :
    FreshRound base s (pollWriteRound buf s io).fst <->
      forall packet, s.resumes io = some packet ->
        Acks packet s.conn.receivedBytes := by
  rw [freshRound_append (writeSink_writeRound s buf io)]
  have hack : forall rest, NumberedAll base s.readStream s.writeSink
        (s.acked io ++ rest) <->
      NumberedAll base s.readStream (s.writeSink ++ s.acked io) rest := by
    intro rest
    unfold acked
    split
    · exact and_iff_right (numbered_flag h .ack)
    · rw [List.append_nil]
      rfl
  rw [hack]
  have htotal : payloadTotal (s.writeSink ++ s.acked io) =
      payloadTotal s.writeSink := by
    unfold acked
    split
    · exact payloadTotal_flag _ _ _
    · rw [List.append_nil]
  cases hresumes : s.resumes io with
  | none =>
      constructor
      · intro _ packet hsome
        cases hsome
      · intro _
        trivial
  | some packet =>
      have hpacket : s.writePacket = some packet :=
        (Machine.of_enabled_if hresumes).right
      have hnumbered := numbered_parked_iff h hpacket htotal
      constructor
      · intro hall other hother
        cases hother
        exact hnumbered.mp hall.left
      · intro hfresh
        exact ⟨hnumbered.mpr (hfresh packet rfl), trivial⟩

def ParkedFresh (s : RusbmuxStream) : Prop :=
  forall packet, s.writePacket = some packet ->
    Acks packet s.conn.receivedBytes

theorem ParkedFresh.resumes (h : ParkedFresh s) (io : ChannelAnswers) :
    forall packet, s.resumes io = some packet ->
      Acks packet s.conn.receivedBytes :=
  fun packet hresumes => h packet (Machine.of_enabled_if hresumes).right

theorem parkedFresh_of_again {buf : List UInt8} {io : ChannelAnswers}
    (hagain : (s.pollWritePacket buf io).snd = .again) :
    ParkedFresh (s.pollWritePacket buf io).fst := by
  unfold pollWritePacket at hagain ⊢
  cases hpacket : s.writePacket with
  | some packet =>
      rw [hpacket] at hagain
      cases hio : io.packet with
      | sent =>
          rw [hio] at hagain
          cases hagain
      | full =>
          rw [hio] at hagain
          cases hagain
      | disconnected =>
          rw [hio] at hagain
          cases hagain
  | none =>
      rw [hpacket] at hagain
      simp only at hagain ⊢
      split at hagain
      · rename_i hzero
        rw [if_pos hzero]
        cases hitem : io.item with
        | item packet =>
            intro parked hparked
            cases hpacket.symm.trans hparked
        | disconnected =>
            rw [hitem] at hagain
            cases hagain
        | pending =>
            rw [hitem] at hagain
            cases hagain
      · rename_i hroom
        rw [if_neg hroom]
        intro packet hbuilt
        cases hbuilt
        rfl

theorem parkedFresh_writeRound {buf : List UInt8} {io : ChannelAnswers}
    (hagain : (pollWriteRound buf s io).snd = .again) :
    ParkedFresh (pollWriteRound buf s io).fst := by
  unfold pollWriteRound at hagain ⊢
  by_cases hack : s.needAck = true
  · rw [if_pos hack] at hagain ⊢
    cases hflag : io.flag with
    | sent =>
        rw [hflag] at hagain
        exact parkedFresh_of_again hagain
    | full =>
        rw [hflag] at hagain
        cases hagain
    | disconnected =>
        rw [hflag] at hagain
        cases hagain
  · rw [if_neg hack] at hagain ⊢
    exact parkedFresh_of_again hagain

/-!
## Rounds of a read
-/

theorem writeSink_sendFlag (s : RusbmuxStream) (tcpFlag : TcpFlags)
    (answer : SendAnswer) :
    (s.pollSendFlag tcpFlag answer).fst.writeSink = s.writeSink ++
      (if answer = .sent then [s.conn.buildFlag tcpFlag] else []) := by
  cases answer with
  | sent => rfl
  | full => exact (List.append_nil _).symm
  | disconnected => exact (List.append_nil _).symm

theorem writeSink_recv (s : RusbmuxStream) (answer : RecvAnswer) :
    (s.pollRecv answer).fst.writeSink = s.writeSink := by
  cases answer with
  | item packet => rfl
  | disconnected => rfl
  | pending => rfl

theorem freshRound_same (hsink : t.writeSink = s.writeSink) :
    FreshRound base s t := by
  rw [freshRound_append (hsink.trans (List.append_nil _).symm)]
  trivial

theorem freshRound_flag (h : Counts base s) (tcpFlag : TcpFlags)
    (answer : SendAnswer) :
    FreshRound base s (s.pollSendFlag tcpFlag answer).fst := by
  rw [freshRound_append (writeSink_sendFlag s tcpFlag answer)]
  split
  · exact ⟨numbered_flag h tcpFlag, trivial⟩
  · trivial

theorem freshRound_read (h : Counts base s) (buf : ReadBuf)
    (io : ChannelAnswers) :
    FreshRound base s (pollReadRound (s, buf) io).fst.fst :=
  pollReadRound_cases (freshRound_flag h .ack io.flag)
    (fun _ => freshRound_same rfl) (freshRound_same (writeSink_recv s io.item))

theorem sends_readRound (s : RusbmuxStream) (buf : ReadBuf)
    (io : ChannelAnswers) :
    s.writeSink <+: (pollReadRound (s, buf) io).fst.fst.writeSink := by
  apply pollReadRound_cases (I := fun t => s.writeSink <+: t.writeSink)
  · rw [writeSink_sendFlag]
    exact List.prefix_append _ _
  · intro rest
    exact List.prefix_refl _
  · rw [writeSink_recv]

end

end RusbmuxStream

/-!
## Calls
-/

section

variable {sigma alpha : Type}
  {round : sigma -> ChannelAnswers -> sigma × Round alpha}
  {R : sigma -> sigma -> Prop} {s t : sigma} {io : ChannelAnswers}
  {rounds : List ChannelAnswers} {result : Poll (IoResult alpha)}

theorem pollLoop_again (hagain : (round s io).snd = .again)
    (h : pollLoop round s (io :: rounds) = some (t, result)) :
    pollLoop round (round s io).fst rounds = some (t, result) := by
  unfold pollLoop at h
  cases hio : round s io with
  | mk u outcome =>
      rw [hio] at h hagain
      cases hagain
      exact h

theorem pollLoop_done (hdone : (round s io).snd ≠ .again)
    (h : pollLoop round s (io :: rounds) = some (t, result)) :
    t = (round s io).fst := by
  unfold pollLoop at h
  cases hio : round s io with
  | mk u outcome =>
      rw [hio] at h hdone
      cases outcome with
      | again => exact absurd rfl hdone
      | done value =>
          rcases Machine.of_enabled_if h with ⟨_, hsame⟩
          cases hsame
          rfl

theorem roundsAll_of_pollLoop {J : sigma -> Prop}
    (read : sigma -> List UsbDevicePacket) {all : List UsbDevicePacket}
    (hgrows : forall s io, read s <+: read (round s io).fst)
    (hround : forall s io, J s -> read s <+: all -> R s (round s io).fst)
    (hkeep : forall s io, J s -> (round s io).snd = .again ->
      J (round s io).fst)
    (hs : J s) (h : pollLoop round s rounds = some (t, result))
    (ht : read t <+: all) : RoundsAll round R s rounds := by
  induction rounds generalizing s with
  | nil => trivial
  | cons io rest ih =>
      have hwhole : read s <+: read t :=
        pollLoop_keeps (I := fun u => read s <+: read u)
          (fun u io hu => hu.trans (hgrows u io)) (List.prefix_refl _) h
      constructor
      · exact hround s io hs (hwhole.trans ht)
      · intro hagain
        exact ih (hkeep s io hs hagain) (pollLoop_again hagain h)

theorem pollLoop_keeps_of_roundsAll {I : sigma -> Prop}
    (hkeep : forall s io, R s (round s io).fst -> I s -> I (round s io).fst)
    (hall : RoundsAll round R s rounds) (hs : I s)
    (h : pollLoop round s rounds = some (t, result)) : I t := by
  induction rounds generalizing s with
  | nil => cases h
  | cons io rest ih =>
      have hnext := hkeep s io hall.left hs
      by_cases hagain : (round s io).snd = .again
      · exact ih (hall.right hagain) hnext (pollLoop_again hagain h)
      · rw [pollLoop_done hagain h]
        exact hnext

end

namespace StreamUse

open RusbmuxStream

variable {base : UInt32} {u v : StreamUse} {a : Action}
  {all : List UsbDevicePacket}

def FreshCall (base : UInt32) (u : StreamUse) : Action -> Prop
  | .pollRead room rounds =>
      RoundsAll pollReadRound (fun r r' => FreshRound base r.fst r'.fst)
        (u.stream, { remaining := room }) rounds
  | .pollWrite buf rounds =>
      buf ≠ [] ->
        RoundsAll (pollWriteRound buf) (FreshRound base) u.stream rounds
  | .pollShutdown flag =>
      FreshRound base u.stream (u.stream.pollShutdown flag).fst

/--
A call that sends a packet parked by an earlier call finds that it acknowledges
all that was received by now.
-/
def ResumesFresh (u : StreamUse) : Action -> Prop
  | .pollWrite buf rounds =>
      buf ≠ [] -> forall packet, u.stream.resumed rounds = some packet ->
        Acks packet u.stream.conn.receivedBytes
  | .pollRead _ _ | .pollShutdown _ => True

theorem grows_step (hstep : step u a = some v) :
    u.stream.readStream <+: v.stream.readStream :=
  step_keeps (callsKeep_grows u.stream.readStream) (List.prefix_refl _) hstep

/-!
### Calls whose packets are fresh
-/

theorem freshCall_write_iff (horder : InOrder all)
    (h : Tracks base all u.stream) {buf : List UInt8}
    {rounds : List ChannelAnswers} {t : RusbmuxStream}
    {result : Poll (IoResult Nat)}
    (hcall : pollLoop (pollWriteRound buf) u.stream rounds = some (t, result))
    (ht : t.readStream <+: all) :
    RoundsAll (pollWriteRound buf) (FreshRound base) u.stream rounds <->
      forall packet, u.stream.resumed rounds = some packet ->
        Acks packet u.stream.conn.receivedBytes := by
  cases rounds with
  | nil => cases hcall
  | cons io rest =>
      have hwhole : u.stream.readStream <+: t.readStream :=
        pollLoop_keeps ((callsKeep_grows u.stream.readStream).writeRound buf)
          (List.prefix_refl _) hcall
      have hfirst := freshRound_write_iff (h (hwhole.trans ht)) buf io
      have hrest : (pollWriteRound buf u.stream io).snd = .again ->
          RoundsAll (pollWriteRound buf) (FreshRound base)
            (pollWriteRound buf u.stream io).fst rest := by
        intro hagain
        apply roundsAll_of_pollLoop (fun s => s.readStream)
          (J := fun s => Tracks base all s ∧ ParkedFresh s)
          (grows_writeRound buf) _ _ _ (pollLoop_again hagain hcall) ht
        · intro s io hs hsoFar
          rw [freshRound_write_iff (hs.left hsoFar)]
          exact hs.right.resumes io
        · intro s io hs hnext
          exact ⟨(callsKeep_tracks horder).writeRound buf s io hs.left,
            parkedFresh_writeRound hnext⟩
        · exact ⟨(callsKeep_tracks horder).writeRound buf u.stream io h,
            parkedFresh_writeRound hagain⟩
      exact (and_iff_left hrest).trans hfirst

theorem freshCall_iff (horder : InOrder all) (h : Tracks base all u.stream)
    (hstep : step u a = some v) (hv : v.stream.readStream <+: all) :
    FreshCall base u a <-> u.ResumesFresh a := by
  cases a with
  | pollRead room rounds =>
      rcases pollRead_eq_some hstep with ⟨buf, result, hcall, _⟩
      apply iff_of_true _ trivial
      apply roundsAll_of_pollLoop (fun r => r.fst.readStream)
        (J := fun r => Tracks base all r.fst) grows_readRound _ _ h hcall hv
      · intro r io hr hsoFar
        exact freshRound_read (hr hsoFar) r.snd io
      · intro r io hr _
        exact (callsKeep_tracks horder).readRound r io hr
  | pollWrite buf rounds =>
      rcases pollWrite_eq_some hstep with
        ⟨_, ⟨hnil, _⟩ | ⟨hbuf, result, hcall⟩⟩
      · constructor
        · intro _ hbuf
          exact absurd hnil hbuf
        · intro _ hbuf
          exact absurd hnil hbuf
      · have hiff := freshCall_write_iff horder h hcall hv
        constructor
        · intro hfresh _
          exact hiff.mp (hfresh hbuf)
        · intro hresumes _
          exact hiff.mpr (hresumes hbuf)
  | pollShutdown flag =>
      apply iff_of_true _ trivial
      have hcounts := h ((grows_step hstep).trans hv)
      have hflag := freshRound_flag hcounts .rst flag
      apply pollShutdown_cases u.stream flag (freshRound_same rfl) hflag hflag

/-!
## Acknowledgment numbers that advance
-/

/--
Every packet on the channel acknowledges what had been dequeued at some time,
one packet no less than the packets before it.
-/
def AcksAdvance (s : RusbmuxStream) : Prop :=
  exists dequeued : List (List UsbDevicePacket),
    List.Forall₂ (fun packet d => Acks packet (1 + .ofNat (payloadTotal d)))
      s.writeSink dequeued ∧
    dequeued.Pairwise (· <+: ·) ∧
    forall d, d ∈ dequeued -> d <+: s.readStream

theorem acks_of_numberedAll {dequeued before packets : List UsbDevicePacket}
    (hnumbered : NumberedAll base dequeued before packets) :
    List.Forall₂ (fun packet d => Acks packet (1 + .ofNat (payloadTotal d)))
      packets (List.replicate packets.length dequeued) := by
  induction packets generalizing before with
  | nil => exact List.Forall₂.nil
  | cons packet rest ih =>
      refine List.Forall₂.cons ?_ (ih hnumbered.right)
      rcases Option.map_eq_some_iff.mp hnumbered.left with ⟨tcpHdr, htcp, hboth⟩
      unfold Acks
      rw [htcp, ← (Prod.mk.inj hboth).right]
      rfl

theorem AcksAdvance.append {s t : RusbmuxStream} (h : AcksAdvance s)
    (hread : s.readStream <+: t.readStream)
    {packets before : List UsbDevicePacket}
    (hsink : t.writeSink = s.writeSink ++ packets)
    (hnumbered : NumberedAll base s.readStream before packets) :
    AcksAdvance t := by
  rcases h with ⟨dequeued, hacks, hordered, hcut⟩
  refine ⟨dequeued ++ List.replicate packets.length s.readStream, ?_, ?_, ?_⟩
  · rw [hsink]
    exact List.rel_append hacks (acks_of_numberedAll hnumbered)
  · rw [List.pairwise_append]
    refine ⟨hordered, ?_, ?_⟩
    · rw [List.pairwise_replicate]
      exact Or.inr (List.prefix_refl _)
    · intro d hd e he
      rw [List.eq_of_mem_replicate he]
      exact hcut d hd
  · intro d hd
    rcases List.mem_append.mp hd with hold | hnew
    · exact (hcut d hold).trans hread
    · rw [List.eq_of_mem_replicate hnew]
      exact hread

theorem AcksAdvance.fresh {s t : RusbmuxStream} (h : AcksAdvance s)
    (hread : s.readStream <+: t.readStream)
    (hsends : s.writeSink <+: t.writeSink) (hfresh : FreshRound base s t) :
    AcksAdvance t := by
  rcases hsends with ⟨packets, hsink⟩
  rw [freshRound_append hsink.symm] at hfresh
  exact h.append hread hsink.symm hfresh

theorem acksAdvance_step (h : AcksAdvance u.stream)
    (hstep : step u a = some v) (hfresh : FreshCall base u a) :
    AcksAdvance v.stream := by
  cases a with
  | pollRead room rounds =>
      rcases pollRead_eq_some hstep with ⟨buf, result, hcall, _⟩
      exact pollLoop_keeps_of_roundsAll (I := fun r => AcksAdvance r.fst)
        (fun r io hround hr => hr.fresh (grows_readRound r io)
          (sends_readRound r.fst r.snd io) hround) hfresh h hcall
  | pollWrite buf rounds =>
      rcases pollWrite_eq_some hstep with
        ⟨_, ⟨_, hsame⟩ | ⟨hbuf, result, hcall⟩⟩
      · rw [hsame]
        exact h
      · apply pollLoop_keeps_of_roundsAll _ (hfresh hbuf) h hcall
        intro s io hround hs
        apply hs.fresh (grows_writeRound buf s io) _ hround
        rw [writeSink_writeRound]
        exact List.prefix_append _ _
  | pollShutdown flag =>
      cases hstep
      apply h.fresh (grows_step (a := .pollShutdown flag) rfl) _ hfresh
      have hsends : u.stream.writeSink <+:
          (u.stream.pollSendFlag .rst flag).fst.writeSink := by
        rw [writeSink_sendFlag]
        exact List.prefix_append _ _
      exact pollShutdown_cases (I := fun t => u.stream.writeSink <+:
        t.writeSink) u.stream flag (List.prefix_refl _) hsends hsends

/-!
## Fresh headers
-/

/-- The packets of a run that ends in `w` carry the numbers they should. -/
structure HeadersFresh (conn : UsbDeviceConn) (actions : List Action)
    (w : StreamUse) : Prop where
  calls : Machine.Stepwise step (fun u a _ => FreshCall conn.sentBytes u a)
    (.init conn) actions
  acks : AcksAdvance w.stream

theorem tracks_init {conn : UsbDeviceConn} (hreceived : conn.receivedBytes = 1)
    (all : List UsbDevicePacket) :
    Tracks conn.sentBytes all (init conn).stream := by
  intro _
  constructor
  · exact (UInt32.add_zero _).symm
  · exact hreceived
  · intro packet hpacket
    cases hpacket

theorem readStream_of_step {w : StreamUse} {start : StreamUse}
    {actions pre : List Action}
    (hrun : Machine.run step start actions = some w)
    (hpre : pre ++ [a] <+: actions) (hu : Machine.run step start pre = some u)
    (hstep : step u a = some v) :
    v.stream.readStream <+: w.stream.readStream := by
  rcases hpre with ⟨rest, rfl⟩
  rw [List.append_assoc, Machine.run_append_of_run hu] at hrun
  have hrest := (Machine.run_cons_of_step hstep rest).symm.trans hrun
  exact Machine.run_invariant
    (I := fun x : StreamUse => v.stream.readStream <+: x.stream.readStream)
    (fun x b y hx hnext => hx.trans (grows_step hnext))
    (List.prefix_refl _) hrest

/--
Every packet is enqueued with the numbers of that moment, and their
acknowledgment numbers never go back, exactly if no call sends a parked packet
after payload bytes were received that it does not acknowledge.
-/
theorem headersFresh_iff (conn : UsbDeviceConn)
    (hreceived : conn.receivedBytes = 1) (actions : List Action) (w : StreamUse)
    (hrun : Machine.run step (.init conn) actions = some w)
    (horder : InOrder w.stream.readStream) :
    HeadersFresh conn actions w <->
      Machine.Guarded step ResumesFresh (.init conn) actions := by
  have hcall : forall pre a u v, pre ++ [a] <+: actions ->
      Machine.run step (.init conn) pre = some u -> step u a = some v ->
        (FreshCall conn.sentBytes u a <-> u.ResumesFresh a) := by
    intro pre a u v hpre hu hstep
    have htracks := Machine.run_invariant
      (I := fun u : StreamUse =>
        Tracks conn.sentBytes w.stream.readStream u.stream)
      (fun _ _ _ h hnext => step_keeps (callsKeep_tracks horder) h hnext)
      (tracks_init hreceived _) hu
    exact freshCall_iff horder htracks hstep
      (readStream_of_step hrun hpre hu hstep)
  constructor
  · intro hfresh pre a u v hpre hu hstep
    exact (hcall pre a u v hpre hu hstep).mp
      (hfresh.calls pre a u v hpre hu hstep)
  · intro hguard
    have hcalls : Machine.Guarded step (FreshCall conn.sentBytes)
        (.init conn) actions := by
      intro pre a u v hpre hu hstep
      exact (hcall pre a u v hpre hu hstep).mpr
        (hguard pre a u v hpre hu hstep)
    refine ⟨hcalls, ?_⟩
    have hinit : AcksAdvance (init conn).stream :=
      ⟨[], List.Forall₂.nil, List.Pairwise.nil, nofun⟩
    exact (Machine.throughout_of_guarded
      (I := fun u : StreamUse => AcksAdvance u.stream)
      (fun u a v h hstep hfresh => acksAdvance_step h hstep hfresh)
      hinit hcalls).last hrun

theorem inOrder_singleton {packet : UsbDevicePacket} {tcpHdr : TcpHeader}
    (htcp : packet.tcpHdr = some tcpHdr) (hfirst : tcpHdr.sequenceNumber = 1) :
    InOrder [packet] := by
  intro before other hsoFar
  have hlength := hsoFar.length_le
  rw [List.length_append] at hlength
  change before.length + 1 <= 1 at hlength
  have hnil : before = [] := List.length_eq_zero_iff.mp (by omega)
  subst hnil
  rcases hsoFar with ⟨rest, hrest⟩
  cases hrest
  exact ⟨tcpHdr, htcp, hfirst⟩

/-- A byte is received before a packet is built. -/
theorem headersFresh_iff_exchangedBytes :
    exists w, Machine.run step (.init (.opened 62078 1)) exchangedBytes =
        some w ∧
      (HeadersFresh (.opened 62078 1) exchangedBytes w <->
        Machine.Guarded step ResumesFresh (.init (.opened 62078 1))
          exchangedBytes) :=
  ⟨_, rfl, headersFresh_iff (.opened 62078 1) rfl exchangedBytes _ rfl
    (inOrder_singleton rfl rfl)⟩

def parkedWrite : List Action :=
  [.pollWrite [7] [{}, { packet := .full }],
    .pollRead 1
      [{ item := .item ((UsbDeviceConn.opened 1 62078).buildBytes [0x2a]) },
        { flag := .sent }, {}],
    .pollWrite [7] [{ packet := .sent }]]

theorem not_headersFresh_parkedWrite :
    ¬ forall (conn : UsbDeviceConn) (actions : List Action) (w : StreamUse),
      conn.receivedBytes = 1 ->
        Machine.run step (.init conn) actions = some w ->
          InOrder w.stream.readStream -> HeadersFresh conn actions w := by
  intro h
  have hfresh := (h (.opened 62078 1) parkedWrite _ rfl rfl
    (inOrder_singleton rfl rfl)).calls [_, _] _ _ _ (List.prefix_refl _) rfl rfl
      (by decide)
  exact absurd hfresh.left.left (by decide)

end StreamUse

end Provider
end Rusbmux
