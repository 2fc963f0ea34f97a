import Rusbmux.Provider.WriteExact

/-!
# What a read on the provider's stream hands out

Both poll functions take packets off the receive channel: a read when it has
nothing left to hand out, a write to widen the window.  They all go through the
same buffer, and `need_ack` holds every byte back until an ACK for the last
packet is on the writer channel.
-/

namespace Rusbmux
namespace Provider

open Foundation
open Rusbmux.Parser

def payloads (packets : List UsbDevicePacket) : List UInt8 :=
  packets.flatMap fun packet => packet.payload.encode

def Acknowledges (packet : UsbDevicePacket) (received : UInt32) : Prop :=
  exists tcpHdr, packet.tcpHdr = some tcpHdr ∧ tcpHdr.ack = true ∧
    tcpHdr.acknowledgmentNumber = received

def ackNumber (initial : UInt32) (packets : List UsbDevicePacket) : UInt32 :=
  packets.foldl UsbDeviceConn.receivedAfter initial

/--
The state of a poll loop that has gone through the given rounds, if the call
takes so many.
-/
def pollRounds {sigma alpha : Type}
    (round : sigma -> ChannelAnswers -> sigma × Round alpha) :
    sigma -> List ChannelAnswers -> sigma
  | s, [] => s
  | s, io :: rest =>
      match round s io with
      | (t, .again) => pollRounds round t rest
      | (t, .done _) => t

theorem pollRounds_keeps {sigma alpha : Type} {I : sigma -> Prop}
    {round : sigma -> ChannelAnswers -> sigma × Round alpha}
    (hround : forall s io, I s -> I (round s io).fst) {s : sigma}
    (hs : I s) (rounds : List ChannelAnswers) :
    I (pollRounds round s rounds) := by
  induction rounds generalizing s with
  | nil => exact hs
  | cons io rest ih =>
      have hnext := hround s io hs
      unfold pollRounds
      cases hio : round s io with
      | mk t outcome =>
          rw [hio] at hnext
          cases outcome with
          | again => exact ih hnext
          | done result => exact hnext

theorem buildFlag_acknowledges (conn : UsbDeviceConn) :
    Acknowledges (conn.buildFlag .ack) conn.receivedBytes :=
  ⟨_, rfl, rfl, rfl⟩

namespace RusbmuxStream

/-!
## Exact reads

The stream is considered together with the bytes that its reads have handed out.
-/

/--
What has been handed out belongs to packets for which an ACK is on the writer
channel.
-/
def AckedFirst (initial : UInt32) (s : RusbmuxStream)
    (delivered : List UInt8) : Prop :=
  delivered ≠ [] ->
    exists acked ack, acked <+: s.readStream ∧ delivered <+: payloads acked ∧
      ack ∈ s.writeSink ∧ Acknowledges ack (ackNumber initial acked)

structure ReadsExact (initial : UInt32) (s : RusbmuxStream)
    (delivered : List UInt8) : Prop where
  balance : delivered ++ s.readBuf = payloads s.readStream
  ackedFirst : s.AckedFirst initial delivered

structure ReadInvariant (initial : UInt32) (s : RusbmuxStream)
    (delivered : List UInt8) : Prop where
  exact : s.ReadsExact initial delivered
  received : s.conn.receivedBytes = ackNumber initial s.readStream
  acked : s.needAck = false -> s.readStream ≠ [] ->
    exists ack, ack ∈ s.writeSink ∧
      Acknowledges ack (ackNumber initial s.readStream)

structure SameReads (s t : RusbmuxStream) : Prop where
  readStream : t.readStream = s.readStream
  readBuf : t.readBuf = s.readBuf
  received : t.conn.receivedBytes = s.conn.receivedBytes
  writeSink : s.writeSink <+: t.writeSink

namespace SameReads

variable {s t u : RusbmuxStream}

theorem readsExact {initial : UInt32} {delivered : List UInt8}
    (h : s.ReadsExact initial delivered) (hsame : SameReads s t) :
    t.ReadsExact initial delivered := by
  constructor
  · rw [hsame.readBuf, hsame.readStream]
    exact h.balance
  · intro hdelivered
    rcases h.ackedFirst hdelivered with
      ⟨acked, ack, hacked, hcovers, hsent, hnumber⟩
    rw [hsame.readStream]
    exact ⟨acked, ack, hacked, hcovers, hsame.writeSink.mem hsent, hnumber⟩

theorem invariant {initial : UInt32} {delivered : List UInt8}
    (h : ReadInvariant initial s delivered) (hsame : SameReads s t)
    (hneed : t.needAck = s.needAck) :
    ReadInvariant initial t delivered where
  exact := readsExact h.exact hsame
  received := by
    rw [hsame.received, hsame.readStream]
    exact h.received
  acked := by
    rw [hneed, hsame.readStream]
    intro hack hread
    rcases h.acked hack hread with ⟨ack, hsent, hnumber⟩
    exact ⟨ack, hsame.writeSink.mem hsent, hnumber⟩

end SameReads

section

variable {initial : UInt32} {s : RusbmuxStream} {delivered : List UInt8}

theorem readInvariant_init (conn : UsbDeviceConn) :
    ReadInvariant conn.receivedBytes { conn := conn } [] where
  exact := ⟨rfl, fun h => absurd rfl h⟩
  received := rfl
  acked := fun _ h => absurd rfl h

theorem readInvariant_ack (h : ReadInvariant initial s delivered)
    (answer : SendAnswer) :
    ReadInvariant initial (s.pollSendFlag .ack answer).fst delivered := by
  cases answer with
  | full => exact h
  | disconnected => exact h
  | sent =>
      constructor
      · refine SameReads.readsExact h.exact ⟨rfl, rfl, rfl, ?_⟩
        exact List.prefix_append _ _
      · exact h.received
      · intro _ _
        refine ⟨s.conn.buildFlag .ack, ?_, ?_⟩
        · exact List.mem_append_right _ (List.mem_singleton_self _)
        · show Acknowledges _ (ackNumber initial s.readStream)
          rw [← h.received]
          exact buildFlag_acknowledges s.conn

theorem pollRecv_readBuf (s : RusbmuxStream) (packet : UsbDevicePacket) :
    (s.pollRecv (.item packet)).fst.readBuf =
      s.readBuf ++ packet.payload.encode := by
  unfold pollRecv
  cases s.readBuf with
  | nil => rfl
  | cons b rest => rfl

theorem readInvariant_recv (h : ReadInvariant initial s delivered)
    (answer : RecvAnswer) :
    ReadInvariant initial (s.pollRecv answer).fst delivered := by
  cases answer with
  | pending => exact h
  | disconnected => exact h
  | item packet =>
      constructor
      · constructor
        · rw [pollRecv_readBuf, ← List.append_assoc, h.exact.balance]
          exact (List.flatMap_append.trans
            (congrArg _ (List.flatMap_singleton _ _))).symm
        · intro hdelivered
          rcases h.exact.ackedFirst hdelivered with
            ⟨acked, ack, hacked, hrest⟩
          exact ⟨acked, ack, hacked.trans (List.prefix_append _ _), hrest⟩
      · show (s.conn.updateStates packet).receivedBytes =
          ackNumber initial (s.readStream ++ [packet])
        rw [UsbDeviceConn.updateStates_receivedBytes, h.received, ackNumber,
          ackNumber, List.foldl_append]
        rfl
      · intro hack
        cases hack

theorem readInvariant_handOut (h : ReadInvariant initial s delivered)
    (hack : s.needAck = false) (hbuf : s.readBuf ≠ []) (n : Nat) :
    ReadInvariant initial { s with readBuf := s.readBuf.drop n }
      (delivered ++ s.readBuf.take n) := by
  have hbalance : delivered ++ s.readBuf.take n ++ s.readBuf.drop n =
      payloads s.readStream := by
    rw [List.append_assoc, List.take_append_drop]
    exact h.exact.balance
  have hread : s.readStream ≠ [] := by
    intro hnil
    have hempty := h.exact.balance
    rw [hnil] at hempty
    exact hbuf (List.append_eq_nil_iff.mp hempty).right
  constructor
  · constructor
    · exact hbalance
    · intro _
      rcases h.acked hack hread with ⟨ack, hsent, hnumber⟩
      exact ⟨s.readStream, ack, List.prefix_refl _,
        ⟨s.readBuf.drop n, hbalance⟩, hsent, hnumber⟩
  · exact h.received
  · exact h.acked

/-!
## Rounds of a read
-/

theorem pollReadRound_handOut (hack : s.needAck = false)
    (hbuf : s.readBuf ≠ []) (buf : ReadBuf) (io : ChannelAnswers) :
    pollReadRound (s, buf) io =
      (({ s with
          readBuf := s.readBuf.drop (min s.readBuf.length buf.remaining) },
        buf.putSlice (s.readBuf.take (min s.readBuf.length buf.remaining))),
        .done (.ready (.ok ()))) := by
  unfold pollReadRound
  have hnonempty : s.readBuf.isEmpty = false := by simpa using hbuf
  simp only [hack, hnonempty, Bool.not_false, if_true, Bool.false_eq_true,
    if_false]
  split
  · rename_i hmore
    simp only [ReadBuf.putSlice, List.length_take, Bool.and_eq_true,
      decide_eq_true_eq, Bool.not_eq_true', List.isEmpty_eq_false_iff,
      ne_eq, List.drop_eq_nil_iff] at hmore
    omega
  · rfl

theorem pollReadRound_waits
    (hwaits : s.needAck = true ∨ s.readBuf = []) (buf : ReadBuf)
    (io : ChannelAnswers) :
    exists t outcome, pollReadRound (s, buf) io = ((t, buf), outcome) ∧
      outcome ≠ .done (.ready (.ok ())) ∧
      (forall initial delivered, ReadInvariant initial s delivered ->
        ReadInvariant initial t delivered) := by
  unfold pollReadRound
  cases hack : s.needAck with
  | true =>
      simp only [hack, if_true]
      have hkeep := fun i d (h : ReadInvariant i s d) =>
        readInvariant_ack h io.flag
      cases hflag : io.flag with
      | sent =>
          rw [hflag] at hkeep
          exact ⟨_, _, rfl, nofun, hkeep⟩
      | full => exact ⟨_, _, rfl, nofun, fun _ _ h => h⟩
      | disconnected => exact ⟨_, _, rfl, nofun, fun _ _ h => h⟩
  | false =>
      have hempty : s.readBuf = [] := by
        rcases hwaits with htrue | hempty
        · rw [hack] at htrue
          cases htrue
        · exact hempty
      simp only [hack, hempty, List.isEmpty_nil, Bool.not_true,
        Bool.false_eq_true, if_false]
      have hkeep := fun i d (h : ReadInvariant i s d) =>
        readInvariant_recv h io.item
      cases hitem : io.item with
      | item packet =>
          rw [hitem] at hkeep
          exact ⟨_, _, rfl, nofun, hkeep⟩
      | disconnected => exact ⟨_, _, rfl, nofun, fun _ _ h => h⟩
      | pending => exact ⟨_, _, rfl, nofun, fun _ _ h => h⟩

theorem waits_or_handOut (s : RusbmuxStream) :
    (s.needAck = true ∨ s.readBuf = []) ∨
      (s.needAck = false ∧ s.readBuf ≠ []) := by
  cases s.needAck with
  | true => exact Or.inl (Or.inl rfl)
  | false =>
      by_cases hbuf : s.readBuf = []
      · exact Or.inl (Or.inr hbuf)
      · exact Or.inr ⟨rfl, hbuf⟩

theorem readInvariant_readRound (r : RusbmuxStream × ReadBuf)
    (io : ChannelAnswers)
    (h : ReadInvariant initial r.fst (delivered ++ r.snd.filled)) :
    ReadInvariant initial (pollReadRound r io).fst.fst
      (delivered ++ (pollReadRound r io).fst.snd.filled) := by
  rcases r with ⟨s, buf⟩
  rcases waits_or_handOut s with hwaits | ⟨hack, hbuf⟩
  · rcases pollReadRound_waits hwaits buf io with
      ⟨t, outcome, hround, _, hkeep⟩
    rw [hround]
    exact hkeep _ _ h
  · rw [pollReadRound_handOut hack hbuf]
    have hnext := readInvariant_handOut h hack hbuf
      (min s.readBuf.length buf.remaining)
    rw [List.append_assoc] at hnext
    exact hnext

theorem room_of_nothing_read {t : RusbmuxStream} {buf : ReadBuf} {room : Nat}
    {rounds : List ChannelAnswers}
    (h : s.pollRead { remaining := room } rounds =
      some ((t, buf), .ready (.ok ())))
    (hnothing : buf.filled = []) : room = 0 := by
  unfold pollRead at h
  induction rounds generalizing s with
  | nil => cases h
  | cons io rest ih =>
      unfold pollLoop at h
      rcases waits_or_handOut s with hwaits | ⟨hack, hbuf⟩
      · rcases pollReadRound_waits hwaits { remaining := room } io with
          ⟨u, outcome, hround, houtcome, _⟩
        rw [hround] at h
        cases outcome with
        | again => exact ih h
        | done result =>
            rcases Machine.of_enabled_if h with ⟨_, hdone⟩
            cases hdone
            exact absurd rfl houtcome
      · rw [pollReadRound_handOut hack hbuf] at h
        rcases Machine.of_enabled_if h with ⟨_, hdone⟩
        cases hdone
        have htake : s.readBuf.take (min s.readBuf.length room) = [] := hnothing
        rcases List.take_eq_nil_iff.mp htake with hzero | hempty
        · have hlength : 0 < s.readBuf.length := List.length_pos_iff.mpr hbuf
          omega
        · exact absurd hempty hbuf

/-!
## Rounds of a write
-/

theorem readInvariant_sendPending (h : ReadInvariant initial s delivered)
    (packet : UsbDevicePacket) (answer : SendAnswer) :
    ReadInvariant initial
      ({ s with writePacket := none }.pollSendPending packet answer).fst
      delivered := by
  cases answer with
  | sent =>
      refine SameReads.invariant h ⟨rfl, rfl, rfl, ?_⟩ rfl
      exact List.prefix_append _ _
  | full => exact SameReads.invariant h ⟨rfl, rfl, rfl, List.prefix_refl _⟩ rfl
  | disconnected =>
      exact SameReads.invariant h ⟨rfl, rfl, rfl, List.prefix_refl _⟩ rfl

theorem writesKeep_readInvariant (initial : UInt32) (delivered : List UInt8) :
    WritesKeep fun s => ReadInvariant initial s delivered where
  ack := fun _ answer h => readInvariant_ack h answer
  recv := fun _ answer h => readInvariant_recv h answer
  pending := fun _ packet answer _ h =>
    readInvariant_sendPending h packet answer
  build := fun _ _ h =>
    SameReads.invariant h ⟨rfl, rfl, rfl, List.prefix_refl _⟩ rfl

end

end RusbmuxStream

namespace StreamUse

open RusbmuxStream

/--
The reads on a stream are exact, also between the rounds of its next call, and
that call does not report an end of file.
-/
structure ReadsExactly (initial : UInt32) (u : StreamUse) : Prop where
  atRest : u.stream.ReadsExact initial u.delivered
  inRead : forall room rounds s buf,
    pollRounds pollReadRound (u.stream, { remaining := room }) rounds =
      (s, buf) -> s.ReadsExact initial (u.delivered ++ buf.filled)
  inWrite : forall buf rounds,
    (pollRounds (pollWriteRound buf) u.stream rounds).ReadsExact initial
      u.delivered
  notSpurious : forall room rounds s buf,
    u.stream.pollRead { remaining := room } rounds =
      some ((s, buf), .ready (.ok ())) -> buf.filled = [] -> room = 0

def Action.isTransfer : Action -> Bool
  | .pollRead _ _ | .pollWrite _ _ => true
  | .pollShutdown _ => false

theorem readInvariant_step {initial : UInt32} {u v : StreamUse} {a : Action}
    (h : ReadInvariant initial u.stream u.delivered)
    (hstep : step u a = some v) (htransfer : a.isTransfer = true) :
    ReadInvariant initial v.stream v.delivered := by
  cases a with
  | pollRead room rounds =>
      rcases pollRead_eq_some hstep with ⟨buf, result, hcall, hdelivered, _⟩
      rw [hdelivered]
      exact pollLoop_keeps
        (I := fun r : RusbmuxStream × ReadBuf =>
          ReadInvariant initial r.fst (u.delivered ++ r.snd.filled))
        readInvariant_readRound (by simpa using h) hcall
  | pollWrite buf rounds =>
      rcases pollWrite_eq_some hstep with
        ⟨hdelivered, ⟨_, hsame⟩ | ⟨_, result, hcall⟩⟩
      · rw [hdelivered, hsame]
        exact h
      · rw [hdelivered]
        exact pollLoop_keeps
          ((writesKeep_readInvariant initial u.delivered).writeRound buf) h
          hcall
  | pollShutdown flag => cases htransfer

theorem readsExactly_of_invariant {initial : UInt32} {u : StreamUse}
    (h : ReadInvariant initial u.stream u.delivered) :
    u.ReadsExactly initial where
  atRest := h.exact
  inRead := by
    intro room rounds s buf hrounds
    have hkeeps := pollRounds_keeps
      (I := fun r : RusbmuxStream × ReadBuf =>
        ReadInvariant initial r.fst (u.delivered ++ r.snd.filled))
      readInvariant_readRound
      (s := (u.stream, { remaining := room })) (by simpa using h) rounds
    rw [hrounds] at hkeeps
    exact hkeeps.exact
  inWrite := by
    intro buf rounds
    exact (pollRounds_keeps
      ((writesKeep_readInvariant initial u.delivered).writeRound buf) h
      rounds).exact
  notSpurious := fun _ _ _ _ => room_of_nothing_read

/--
However reads and writes are interleaved and whatever the channels answer, the
reads on a stream are exact in every state and in the middle of every call.
-/
theorem readsExactly_throughout (conn : UsbDeviceConn) (actions : List Action)
    (htransfers : forall a, a ∈ actions -> a.isTransfer = true) :
    Machine.Throughout step (ReadsExactly conn.receivedBytes) (.init conn)
      actions := by
  intro pre u hpre hrun
  have hinit : ReadInvariant conn.receivedBytes (StreamUse.init conn).stream
      (StreamUse.init conn).delivered := readInvariant_init conn
  have hinvariant := Machine.throughout_of_guarded
    (I := fun u : StreamUse =>
      ReadInvariant conn.receivedBytes u.stream u.delivered)
    (fun _ _ _ => readInvariant_step) hinit
    (Machine.guarded_of_mem htransfers _)
  exact readsExactly_of_invariant (hinvariant pre u hpre hrun)

def exchangedBytes : List Action :=
  [.pollRead 1
      [{ item := .item ((UsbDeviceConn.opened 1 62078).buildBytes [0x2a]) },
        { flag := .full }],
    .pollWrite [0x07] [{ flag := .sent }, { packet := .sent }],
    .pollRead 1 [{}]]

theorem readsExactly_throughout_exchangedBytes :
    Machine.Throughout step (ReadsExactly 1) (.init (.opened 62078 1))
      exchangedBytes :=
  readsExactly_throughout (.opened 62078 1) exchangedBytes (by decide)

end StreamUse

end Provider
end Rusbmux
