import Rusbmux.Provider.Stream

/-!
# What the operations of a stream keep

A property of streams holds after every call if each answer of a channel keeps
it: the rounds of the two poll loops, the loops and the calls are gone through
here once.
-/

namespace Rusbmux
namespace Provider

open Foundation
open Rusbmux.Parser

section

variable {sigma alpha : Type}

theorem pollLoop_keeps {I : sigma -> Prop}
    {round : sigma -> ChannelAnswers -> sigma × Round alpha}
    (hround : forall s io, I s -> I (round s io).fst)
    {s t : sigma} {rounds : List ChannelAnswers}
    {result : Poll (IoResult alpha)}
    (hs : I s) (h : pollLoop round s rounds = some (t, result)) : I t := by
  induction rounds generalizing s with
  | nil => cases h
  | cons io rest ih =>
      have hnext := hround s io hs
      unfold pollLoop at h
      cases hio : round s io with
      | mk u outcome =>
          rw [hio] at h hnext
          cases outcome with
          | again => exact ih hnext h
          | done value =>
              rcases Machine.of_enabled_if h with ⟨_, hdone⟩
              cases hdone
              exact hnext

theorem readyOk_again_fst (r : sigma × Poll (IoResult Unit)) :
    (readyOk r fun t _ => (t, (Round.again : Round Unit))).fst = r.fst := by
  rcases r with ⟨t, (_ | _) | _⟩
  · rfl
  · rfl
  · rfl

theorem readyOk_keeps {beta : Type} {I : sigma -> Prop}
    {r : sigma × Poll (IoResult alpha)}
    {next : sigma -> alpha -> sigma × Round beta}
    (hr : I r.fst) (hnext : forall t value, I t -> I (next t value).fst) :
    I (readyOk r next).fst := by
  rcases r with ⟨t, (_ | value) | _⟩
  · exact hr
  · exact hnext t value hr
  · exact hr

end

namespace RusbmuxStream

/-!
## Rounds
-/

structure AnswersKeep (I : RusbmuxStream -> Prop) : Prop where
  ack : forall s answer, I s -> I (s.pollSendFlag .ack answer).fst
  recv : forall s answer, I s -> I (s.pollRecv answer).fst

structure ReadsKeep (I : RusbmuxStream -> Prop) : Prop extends
    AnswersKeep I where
  handOut : forall s rest, I s -> I { s with readBuf := rest }

structure WritesKeep (I : RusbmuxStream -> Prop) : Prop extends
    AnswersKeep I where
  pending : forall s packet answer, s.writePacket = some packet -> I s ->
    I ({ s with writePacket := none }.pollSendPending packet answer).fst
  build : forall s (buf : List UInt8), I s ->
    I { s with
      lastWriteLen := min buf.length s.conn.sendableBytes
      writePacket :=
        some (s.conn.buildBytes
          (buf.take (min buf.length s.conn.sendableBytes))) }

structure CallsKeep (I : RusbmuxStream -> Prop) : Prop extends
    ReadsKeep I, WritesKeep I where
  rst : forall s answer, I s -> I (s.pollSendFlag .rst answer).fst
  dropped : forall s, I s -> I { s with conn := s.conn.setDropped }

variable {I : RusbmuxStream -> Prop} {s : RusbmuxStream}

theorem pollReadRound_cases {buf : ReadBuf} {io : ChannelAnswers}
    (hflag : I (s.pollSendFlag .ack io.flag).fst)
    (hhandOut : forall rest, I { s with readBuf := rest })
    (hrecv : I (s.pollRecv io.item).fst) :
    I (pollReadRound (s, buf) io).fst.fst := by
  unfold pollReadRound
  simp only
  split
  · rw [readyOk_again_fst]
    exact hflag
  · split
    · split
      · exact hhandOut _
      · exact hhandOut _
    · rw [readyOk_again_fst]
      exact hrecv

theorem ReadsKeep.readRound (h : ReadsKeep I) (r : RusbmuxStream × ReadBuf)
    (io : ChannelAnswers) (hr : I r.fst) : I (pollReadRound r io).fst.fst :=
  pollReadRound_cases (h.ack r.fst io.flag hr)
    (fun rest => h.handOut r.fst rest hr) (h.recv r.fst io.item hr)

theorem WritesKeep.writePacket (h : WritesKeep I) (hs : I s) (buf : List UInt8)
    (io : ChannelAnswers) : I (s.pollWritePacket buf io).fst := by
  unfold pollWritePacket
  cases hpacket : s.writePacket with
  | some packet =>
      apply readyOk_keeps
      · exact h.pending s packet io.packet hpacket hs
      · exact fun _ _ ht => ht
  | none =>
      simp only
      split
      · apply readyOk_keeps
        · exact h.recv s io.item hs
        · exact fun _ _ ht => ht
      · exact h.build s buf hs

theorem WritesKeep.writeRound (h : WritesKeep I) (buf : List UInt8)
    (s : RusbmuxStream) (io : ChannelAnswers) (hs : I s) :
    I (pollWriteRound buf s io).fst := by
  unfold pollWriteRound
  split
  · apply readyOk_keeps
    · exact h.ack s io.flag hs
    · exact fun t _ ht => h.writePacket ht buf io
  · exact h.writePacket hs buf io

theorem pollShutdown_cases (s : RusbmuxStream) (flag : SendAnswer) (hs : I s)
    (hflag : I (s.pollSendFlag .rst flag).fst)
    (hdropped : I { (s.pollSendFlag .rst flag).fst with
      conn := (s.pollSendFlag .rst flag).fst.conn.setDropped }) :
    I (s.pollShutdown flag).fst := by
  unfold pollShutdown
  split
  · exact hs
  · cases flag with
    | sent => exact hdropped
    | full => exact hflag
    | disconnected => exact hflag

theorem CallsKeep.shutdown (h : CallsKeep I) (s : RusbmuxStream)
    (flag : SendAnswer) (hs : I s) : I (s.pollShutdown flag).fst :=
  pollShutdown_cases s flag hs (h.rst s flag hs)
    (h.dropped _ (h.rst s flag hs))

end RusbmuxStream

/-!
## Calls
-/

namespace StreamUse

open RusbmuxStream

variable {u v : StreamUse} {a : Action}

theorem pollRead_eq_some {room : Nat} {rounds : List ChannelAnswers}
    (hstep : step u (.pollRead room rounds) = some v) :
    exists buf result, pollLoop pollReadRound
      (u.stream, { remaining := room }) rounds =
        some ((v.stream, buf), result) ∧
      v.delivered = u.delivered ++ buf.filled ∧ v.writes = u.writes := by
  rcases Option.bind_eq_some_iff.mp hstep with
    ⟨⟨⟨s, buf⟩, result⟩, hcall, hv⟩
  cases hv
  exact ⟨buf, result, hcall, rfl, rfl⟩

theorem pollWrite_eq_some {buf : List UInt8} {rounds : List ChannelAnswers}
    (hstep : step u (.pollWrite buf rounds) = some v) :
    v.delivered = u.delivered ∧
      ((buf = [] ∧ v.stream = u.stream) ∨
        (buf ≠ [] ∧ exists result,
          pollLoop (pollWriteRound buf) u.stream rounds =
            some (v.stream, result))) := by
  rcases Option.bind_eq_some_iff.mp hstep with ⟨⟨s, result⟩, hcall, hv⟩
  cases hv
  refine ⟨rfl, ?_⟩
  unfold RusbmuxStream.pollWrite at hcall
  split at hcall
  · rename_i hempty
    cases hcall
    exact Or.inl ⟨List.isEmpty_iff.mp hempty, rfl⟩
  · rename_i hsome
    exact Or.inr ⟨fun hnil => hsome (List.isEmpty_iff.mpr hnil), result, hcall⟩

theorem step_keeps {I : RusbmuxStream -> Prop} (h : CallsKeep I)
    (hu : I u.stream) (hstep : step u a = some v) : I v.stream := by
  cases a with
  | pollRead room rounds =>
      rcases pollRead_eq_some hstep with ⟨buf, result, hcall, _⟩
      exact pollLoop_keeps (I := fun r : RusbmuxStream × ReadBuf => I r.fst)
        h.readRound hu hcall
  | pollWrite buf rounds =>
      rcases pollWrite_eq_some hstep with
        ⟨_, ⟨_, hsame⟩ | ⟨_, result, hcall⟩⟩
      · rw [hsame]
        exact hu
      · exact pollLoop_keeps (h.writeRound buf) hu hcall
  | pollShutdown flag =>
      cases hstep
      exact h.shutdown u.stream flag hu

end StreamUse

end Provider
end Rusbmux
