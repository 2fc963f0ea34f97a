import Rusbmux.Provider.StreamRules

/-!
# What a write on the provider's stream reports

`poll_write` parks the packet it built when the writer channel is full, and the
next call sends the parked packet and reports its length, whatever buffer that
call was given.  So the reported lengths describe the bytes on the channel
exactly as long as a call that sends a parked packet is given a buffer that
begins with the payload of that packet.
-/

namespace Rusbmux
namespace Provider

open Foundation
open Rusbmux.Parser

namespace RusbmuxStream

def dataSent (s : RusbmuxStream) : List UInt8 :=
  s.writeSink.flatMap fun packet => packet.payload.encode

def ParkedLength (s : RusbmuxStream) : Prop :=
  forall packet, s.writePacket = some packet ->
    packet.payload.encode.length = s.lastWriteLen

def resumes (s : RusbmuxStream) (io : ChannelAnswers) :
    Option UsbDevicePacket :=
  if (s.needAck = true -> io.flag = .sent) ∧ io.packet = .sent then
    s.writePacket
  else
    none

def resumed (s : RusbmuxStream) (rounds : List ChannelAnswers) :
    Option UsbDevicePacket :=
  rounds.head?.bind s.resumes

/-!
## The parts of a stream that writes depend on
-/

structure SameWrites (s t : RusbmuxStream) : Prop where
  dataSent : t.dataSent = s.dataSent
  writePacket : t.writePacket = s.writePacket
  lastWriteLen : t.lastWriteLen = s.lastWriteLen

namespace SameWrites

variable {s t u : RusbmuxStream}

theorem refl (s : RusbmuxStream) : SameWrites s s :=
  ⟨rfl, rfl, rfl⟩

theorem trans (h : SameWrites s t) (h' : SameWrites t u) : SameWrites s u :=
  ⟨h'.dataSent.trans h.dataSent, h'.writePacket.trans h.writePacket,
    h'.lastWriteLen.trans h.lastWriteLen⟩

theorem withConn (h : SameWrites s t) (conn : UsbDeviceConn) :
    SameWrites s { t with conn := conn } :=
  ⟨h.dataSent, h.writePacket, h.lastWriteLen⟩

theorem parkedLength (h : SameWrites s t) (hs : s.ParkedLength) :
    t.ParkedLength := by
  intro packet hpacket
  rw [h.lastWriteLen]
  exact hs packet (h.writePacket.symm.trans hpacket)

end SameWrites

theorem pollSendFlag_same (s : RusbmuxStream) (tcpFlag : TcpFlags)
    (answer : SendAnswer) :
    SameWrites s (s.pollSendFlag tcpFlag answer).fst := by
  cases answer with
  | sent =>
      constructor
      · show (s.writeSink ++ [s.conn.buildFlag tcpFlag]).flatMap _ = _
        rw [List.flatMap_append]
        exact List.append_nil _
      · rfl
      · rfl
  | full => exact SameWrites.refl s
  | disconnected => exact SameWrites.refl s

theorem pollRecv_same (s : RusbmuxStream) (answer : RecvAnswer) :
    SameWrites s (s.pollRecv answer).fst := by
  cases answer with
  | item packet => exact ⟨rfl, rfl, rfl⟩
  | disconnected => exact SameWrites.refl s
  | pending => exact SameWrites.refl s

theorem pollShutdown_same (s : RusbmuxStream) (flag : SendAnswer) :
    SameWrites s (s.pollShutdown flag).fst := by
  have hflag := pollSendFlag_same s .rst flag
  exact pollShutdown_cases s flag (SameWrites.refl s) hflag (hflag.withConn _)

/-!
## Reads
-/

theorem readsKeep_same (s : RusbmuxStream) : ReadsKeep (SameWrites s) where
  ack := fun t answer h => h.trans (pollSendFlag_same t .ack answer)
  recv := fun t answer h => h.trans (pollRecv_same t answer)
  handOut := fun _ _ h => ⟨h.dataSent, h.writePacket, h.lastWriteLen⟩

theorem pollRead_same {s t : RusbmuxStream} {buf filled : ReadBuf}
    {rounds : List ChannelAnswers} {result : Poll (IoResult Unit)}
    (h : s.pollRead buf rounds = some ((t, filled), result)) :
    SameWrites s t :=
  pollLoop_keeps (I := fun u => SameWrites s u.fst)
    (readsKeep_same s).readRound (SameWrites.refl s) h

/-!
## Writes
-/

structure WriteEffect (s t : RusbmuxStream) (payload : List UInt8)
    (result : Poll (IoResult Nat)) : Prop where
  dataSent : t.dataSent = s.dataSent ++ payload
  parkedLength : t.ParkedLength
  reported : payload.length = (StreamUse.reported result).getD 0

theorem WriteEffect.nothing {s t : RusbmuxStream} {result : Poll (IoResult Nat)}
    (hdata : t.dataSent = s.dataSent) (hlength : t.ParkedLength)
    (hresult : StreamUse.reported result = none) :
    WriteEffect s t [] result where
  dataSent := by rw [hdata, List.append_nil]
  parkedLength := hlength
  reported := by rw [hresult]; rfl

inductive RoundEffect (buf : List UInt8) (s : RusbmuxStream)
    (parked : Option UsbDevicePacket) : RusbmuxStream × Round Nat -> Prop where
  | sends {packet : UsbDevicePacket} {t : RusbmuxStream}
      {result : Poll (IoResult Nat)} (hparked : parked = some packet)
      (heffect : WriteEffect s t packet.payload.encode result) :
      RoundEffect buf s parked (t, .done result)
  | ends {t : RusbmuxStream} {result : Poll (IoResult Nat)}
      (hparked : parked = none) (heffect : WriteEffect s t [] result) :
      RoundEffect buf s parked (t, .done result)
  | goesOn {t : RusbmuxStream} (hparked : parked = none)
      (hdata : t.dataSent = s.dataSent) (hlength : t.ParkedLength)
      (hbuilt : forall packet, t.writePacket = some packet ->
        packet.payload.encode <+: buf) :
      RoundEffect buf s parked (t, .again)

theorem RoundEffect.of_same {buf : List UInt8} {s t : RusbmuxStream}
    {parked : Option UsbDevicePacket} {r : RusbmuxStream × Round Nat}
    (hsame : SameWrites s t) (h : RoundEffect buf t parked r) :
    RoundEffect buf s parked r := by
  cases h with
  | sends hparked heffect =>
      refine .sends hparked ⟨?_, heffect.parkedLength, heffect.reported⟩
      rw [heffect.dataSent, hsame.dataSent]
  | ends hparked heffect =>
      refine .ends hparked ⟨?_, heffect.parkedLength, heffect.reported⟩
      rw [heffect.dataSent, hsame.dataSent]
  | goesOn hparked hdata hlength hbuilt =>
      exact .goesOn hparked (hdata.trans hsame.dataSent) hlength hbuilt

theorem parkedLength_of_none {s : RusbmuxStream} (h : s.writePacket = none) :
    s.ParkedLength := by
  intro packet hpacket
  rw [h] at hpacket
  cases hpacket

theorem pollSendPending_effect {s : RusbmuxStream} {packet : UsbDevicePacket}
    (hs : s.ParkedLength) (hpacket : s.writePacket = some packet)
    (buf : List UInt8) (answer : SendAnswer) :
    RoundEffect buf s (if answer = .sent then some packet else none)
      (readyOk ({ s with writePacket := none }.pollSendPending packet answer)
        fun t n => (t, .done (.ready (.ok n)))) := by
  cases answer with
  | sent =>
      refine .sends rfl ⟨?_, parkedLength_of_none rfl, hs packet hpacket⟩
      show (s.writeSink ++ [packet]).flatMap _ = s.writeSink.flatMap _ ++ _
      rw [List.flatMap_append, List.flatMap_singleton]
  | full =>
      refine .ends rfl (WriteEffect.nothing rfl ?_ rfl)
      intro parked hparked
      exact hs parked (hpacket.trans hparked)
  | disconnected =>
      exact .ends rfl (WriteEffect.nothing rfl (parkedLength_of_none rfl) rfl)

theorem pollWritePacket_effect {s : RusbmuxStream} (hs : s.ParkedLength)
    (buf : List UInt8) (io : ChannelAnswers) :
    RoundEffect buf s (if io.packet = .sent then s.writePacket else none)
      (s.pollWritePacket buf io) := by
  unfold pollWritePacket
  cases hpacket : s.writePacket with
  | some packet => exact pollSendPending_effect hs hpacket buf io.packet
  | none =>
      rw [ite_self]
      simp only
      by_cases hsendable : s.conn.sendableBytes = 0
      · rw [if_pos hsendable]
        have hsame := pollRecv_same s io.item
        have hnone := hsame.writePacket.trans hpacket
        cases hitem : io.item with
        | item packet =>
            rw [hitem] at hsame hnone
            refine .goesOn rfl hsame.dataSent (parkedLength_of_none hnone) ?_
            intro parked hparked
            cases hnone.symm.trans hparked
        | disconnected => exact .ends rfl (WriteEffect.nothing rfl hs rfl)
        | pending => exact .ends rfl (WriteEffect.nothing rfl hs rfl)
      · rw [if_neg hsendable]
        refine .goesOn rfl rfl ?_ ?_
        · intro packet hbuilt
          cases hbuilt
          rw [UsbDeviceConn.buildBytes_payload, List.length_take]
          exact Nat.min_eq_left (Nat.min_le_left _ _)
        · intro packet hbuilt
          cases hbuilt
          exact List.take_prefix _ buf

theorem pollWriteRound_effect {s : RusbmuxStream} (hs : s.ParkedLength)
    (buf : List UInt8) (io : ChannelAnswers) :
    RoundEffect buf s (s.resumes io) (pollWriteRound buf s io) := by
  unfold pollWriteRound resumes
  by_cases hack : s.needAck = true
  · rw [if_pos hack]
    have hsame := pollSendFlag_same s .ack io.flag
    cases hflag : io.flag with
    | sent =>
        rw [hflag] at hsame
        have hrest := pollWritePacket_effect (hsame.parkedLength hs) buf io
        rw [hsame.writePacket] at hrest
        simp only [implies_true, true_and]
        exact hrest.of_same hsame
    | full =>
        exact .ends (if_neg fun h => nomatch h.left hack)
          (WriteEffect.nothing rfl hs rfl)
    | disconnected =>
        exact .ends (if_neg fun h => nomatch h.left hack)
          (WriteEffect.nothing rfl hs rfl)
  · rw [if_neg hack]
    simpa [hack] using pollWritePacket_effect hs buf io

theorem writePacket_of_resumed {s : RusbmuxStream}
    {rounds : List ChannelAnswers} {packet : UsbDevicePacket}
    (h : s.resumed rounds = some packet) : s.writePacket = some packet := by
  cases rounds with
  | nil => cases h
  | cons io rest => exact (Machine.of_enabled_if h).right

/--
A write sends the packet it resumes, or else what it sends is the front of its
own buffer.
-/
theorem pollWriteLoop_effect {s t : RusbmuxStream} {buf : List UInt8}
    {rounds : List ChannelAnswers} {result : Poll (IoResult Nat)}
    (hs : s.ParkedLength)
    (h : pollLoop (pollWriteRound buf) s rounds = some (t, result)) :
    exists payload, WriteEffect s t payload result ∧
      (s.resumed rounds = none -> payload <+: buf) ∧
      forall packet, s.resumed rounds = some packet ->
        payload = packet.payload.encode := by
  induction rounds generalizing s with
  | nil => cases h
  | cons io rest ih =>
      show exists payload, _ ∧ (s.resumes io = none -> _) ∧
        forall packet, s.resumes io = some packet -> _
      have hround := pollWriteRound_effect hs buf io
      unfold pollLoop at h
      cases hio : pollWriteRound buf s io with
      | mk u outcome =>
          rw [hio] at h hround
          cases hround with
          | sends hparked heffect =>
              rcases Machine.of_enabled_if h with ⟨_, hdone⟩
              cases hdone
              refine ⟨_, heffect, ?_, ?_⟩
              · intro hnone
                cases hparked.symm.trans hnone
              · intro packet hsome
                cases hparked.symm.trans hsome
                rfl
          | ends hparked heffect =>
              rcases Machine.of_enabled_if h with ⟨_, hdone⟩
              cases hdone
              refine ⟨[], heffect, fun _ => List.nil_prefix, ?_⟩
              intro packet hsome
              cases hparked.symm.trans hsome
          | goesOn hparked hdata hlength hbuilt =>
              rcases ih hlength h with ⟨payload, heffect, hown, hresumed⟩
              refine ⟨payload, ⟨?_, heffect.parkedLength, heffect.reported⟩,
                ?_, ?_⟩
              · rw [heffect.dataSent, hdata]
              · intro _
                cases hnext : u.resumed rest with
                | none => exact hown hnext
                | some packet =>
                    rw [hresumed packet hnext]
                    exact hbuilt packet (writePacket_of_resumed hnext)
              · intro packet hsome
                cases hparked.symm.trans hsome

end RusbmuxStream

namespace StreamUse

def accepted (u : StreamUse) : List UInt8 :=
  u.writes.flatMap fun write => write.fst.take write.snd

/--
No write reports more than its buffer holds, and the reported fronts of the
buffers are the payload bytes on the channel.
-/
structure WritesExact (u : StreamUse) : Prop where
  within : forall write, write ∈ u.writes -> write.snd <= write.fst.length
  dataSent : u.stream.dataSent = u.accepted

/--
A call that sends a packet parked by an earlier call is given a buffer that
begins with the payload of that packet.
-/
def ResumesOwn (u : StreamUse) : Action -> Prop
  | .pollWrite buf rounds =>
      buf ≠ [] -> forall packet, u.stream.resumed rounds = some packet ->
        packet.payload.encode <+: buf
  | .pollRead _ _ | .pollShutdown _ => True

structure Invariant (u : StreamUse) : Prop where
  exact : u.WritesExact
  parkedLength : u.stream.ParkedLength

theorem Invariant.init (conn : UsbDeviceConn) :
    Invariant (.init conn) where
  exact := ⟨fun _ h => (nomatch h), rfl⟩
  parkedLength := fun _ h => nomatch h

theorem Invariant.of_same {u v : StreamUse} (h : Invariant u)
    (hstream : RusbmuxStream.SameWrites u.stream v.stream)
    (hwrites : v.writes = u.writes) : Invariant v := by
  constructor
  · constructor
    · rw [hwrites]
      exact h.exact.within
    · rw [hstream.dataSent, accepted, hwrites]
      exact h.exact.dataSent
  · exact hstream.parkedLength h.parkedLength

structure Written (u v : StreamUse) (buf payload : List UInt8) : Prop where
  dataSent : v.stream.dataSent = u.stream.dataSent ++ payload
  accepted : v.accepted = u.accepted ++ buf.take payload.length
  parkedLength : v.stream.ParkedLength
  writes : forall write, write ∈ v.writes ->
    write ∈ u.writes ∨ write = (buf, payload.length)

theorem Written.of_effect {u : StreamUse} {s : RusbmuxStream}
    {buf payload : List UInt8} {result : Poll (IoResult Nat)}
    (h : RusbmuxStream.WriteEffect u.stream s payload result) :
    Written u
      { u with
        stream := s
        writes := u.writes ++
          ((reported result).map fun n => (buf, n)).toList }
      buf payload := by
  have hlength := h.reported
  constructor
  · exact h.dataSent
  · unfold StreamUse.accepted
    rw [List.flatMap_append]
    cases hresult : reported result with
    | none =>
        rw [hresult] at hlength
        rw [hlength]
        rfl
    | some n =>
        rw [hresult] at hlength
        rw [hlength]
        exact congrArg _ (List.flatMap_singleton _ _)
  · exact h.parkedLength
  · intro write hwrite
    rcases List.mem_append.mp hwrite with hold | hnew
    · exact Or.inl hold
    · cases hresult : reported result with
      | none =>
          rw [hresult] at hnew
          cases hnew
      | some n =>
          rw [hresult] at hnew hlength
          right
          rw [hlength]
          exact List.mem_singleton.mp hnew

theorem pollWrite_written {u v : StreamUse} {buf : List UInt8}
    {rounds : List ChannelAnswers} (hs : u.stream.ParkedLength)
    (h : u.pollWrite buf rounds = some v) :
    exists payload, Written u v buf payload ∧
      (buf = [] ∨ u.stream.resumed rounds = none -> payload <+: buf) ∧
      (buf ≠ [] -> forall packet, u.stream.resumed rounds = some packet ->
        payload = packet.payload.encode) := by
  rcases Option.bind_eq_some_iff.mp h with ⟨⟨s, result⟩, hcall, hv⟩
  cases hv
  cases buf with
  | nil =>
      cases hcall
      refine ⟨[], Written.of_effect ⟨?_, hs, rfl⟩, fun _ => List.prefix_refl [],
        fun hbuf => absurd rfl hbuf⟩
      rw [List.append_nil]
  | cons b rest =>
      rcases RusbmuxStream.pollWriteLoop_effect hs hcall with
        ⟨payload, heffect, hown, hresumed⟩
      refine ⟨payload, Written.of_effect heffect, ?_, fun _ => hresumed⟩
      rintro (hnil | hnone)
      · cases hnil
      · exact hown hnone

theorem Invariant.written {u v : StreamUse} {buf payload : List UInt8}
    (h : Invariant u) (hwritten : Written u v buf payload)
    (hfront : payload <+: buf) : Invariant v := by
  constructor
  · constructor
    · intro write hwrite
      rcases hwritten.writes write hwrite with hold | rfl
      · exact h.exact.within write hold
      · exact hfront.length_le
    · rw [hwritten.dataSent, hwritten.accepted, h.exact.dataSent,
        List.prefix_iff_eq_take.mp hfront, List.length_take,
        Nat.min_eq_left hfront.length_le]
  · exact hwritten.parkedLength

theorem invariant_step {u v : StreamUse} {a : Action} (h : Invariant u)
    (hstep : step u a = some v) (hguard : u.ResumesOwn a) : Invariant v := by
  cases a with
  | pollRead room rounds =>
      rcases pollRead_eq_some hstep with ⟨filled, result, hcall, _, hwrites⟩
      exact h.of_same (RusbmuxStream.pollRead_same hcall) hwrites
  | pollWrite buf rounds =>
      rcases pollWrite_written h.parkedLength hstep with
        ⟨payload, hwritten, hown, hresumed⟩
      apply h.written hwritten
      by_cases hbuf : buf = []
      · exact hown (Or.inl hbuf)
      · cases hpacket : u.stream.resumed rounds with
        | none => exact hown (Or.inr hpacket)
        | some packet =>
            rw [hresumed hbuf packet hpacket]
            exact hguard hbuf packet hpacket
  | pollShutdown flag =>
      cases hstep
      exact h.of_same (RusbmuxStream.pollShutdown_same u.stream flag) rfl

theorem not_writesExact_of_foreign {u v : StreamUse} {a : Action}
    (h : Invariant u) (hstep : step u a = some v) (hguard : ¬ u.ResumesOwn a) :
    ¬ v.WritesExact := by
  cases a with
  | pollRead room rounds => exact absurd trivial hguard
  | pollWrite buf rounds =>
      rcases pollWrite_written h.parkedLength hstep with
        ⟨payload, hwritten, _, hresumed⟩
      intro hexact
      apply hguard
      intro hbuf packet hpacket
      have hdata := hexact.dataSent
      rw [hwritten.dataSent, hwritten.accepted, h.exact.dataSent] at hdata
      rw [← hresumed hbuf packet hpacket, List.append_cancel_left hdata]
      exact List.take_prefix _ buf
  | pollShutdown flag => exact absurd trivial hguard

/--
The writes on a stream are exact in every state of a run, exactly if every call
that sends a parked packet is given a buffer beginning with its payload.
-/
theorem writesExact_iff (conn : UsbDeviceConn) (actions : List Action) :
    Machine.Throughout step WritesExact (.init conn) actions <->
      Machine.Guarded step ResumesOwn (.init conn) actions :=
  Machine.throughout_iff_guarded (J := Invariant) (fun _ h => h.exact)
    (fun _ _ _ => invariant_step) (fun _ _ _ => not_writesExact_of_foreign)
    (Invariant.init conn) actions

def abandonedWrite : List Action :=
  [.pollWrite [1, 2, 3] [{}, { packet := .full }],
    .pollWrite [9] [{ packet := .sent }]]

theorem abandonedWrite_writes :
    (Machine.run step (.init (.opened 62078 1)) abandonedWrite).map
      (fun u => u.writes) = some [([9], 3)] := rfl

/-- The write of one byte reports three. -/
theorem not_writesExact_abandoned :
    ¬ forall (conn : UsbDeviceConn) (actions : List Action) (u : StreamUse),
      Machine.run step (.init conn) actions = some u ->
        u.WritesExact := by
  intro h
  rcases Option.map_eq_some_iff.mp abandonedWrite_writes with ⟨u, hrun, hwrites⟩
  have hwithin := (h (.opened 62078 1) abandonedWrite u hrun).within ([9], 3)
    (by rw [hwrites]; exact List.mem_singleton_self _)
  exact absurd hwithin (by decide)

end StreamUse

end Provider
end Rusbmux
