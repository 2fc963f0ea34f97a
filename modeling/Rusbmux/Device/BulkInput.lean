import Mathlib.Data.List.TakeWhile
import Rusbmux.Foundation.SourceReader
import Rusbmux.Parser.DeviceMuxRoundTrip
import Rusbmux.UsbBackend.BulkReader

/-!
# Packets off the bulk endpoint

`UsbDevicePacket::from_reader` and the rounds of `start_reader_loop` on the
`RusbAsyncReader` of `usb_backend/rusb/mod.rs`.  Each `read_exact` polls the
reader until its buffer is full, and the reader cuts transfers into reads as it
likes.  A transfer without bytes looks like the end of the stream.
-/

namespace Rusbmux

open Foundation
open Rusbmux.Parser
open Rusbmux.UsbBackend
open Provider (ReadBuf)

namespace Device
namespace BulkInput

/--
What becomes of a transfer that the reader wants: libusb does not take it, or it
comes to a result or to none, maybe before it is first looked at.
-/
inductive Arrival where
  | refused (text : String)
  | taken (result : Option BulkResult) (atOnce : Bool)
deriving DecidableEq, Repr

end BulkInput

structure BulkInput where
  reader : RusbAsyncReader := {}
  arrivals : List BulkInput.Arrival
deriving DecidableEq, Repr

namespace BulkInput

structure ReadDone where
  bytes : List UInt8
  result : IoResult Unit
  rest : BulkInput

def done (polled : Option ((RusbAsyncReader × ReadBuf) × Poll (IoResult Unit)))
    (arrivals : List Arrival) : Option ReadDone :=
  match polled with
  | some ((reader, buf), .ready result) =>
      some ⟨buf.filled, result, { reader := reader, arrivals := arrivals }⟩
  | _ => none

def settled : Option BulkResult -> Receiver
  | some result => .ready result
  | none => .closed

/--
A read of at most `room` bytes, polled again once its transfer has come to its
end; it waits for ever if there is none.
-/
def read (s : BulkInput) (room : Nat) : Option ReadDone :=
  let buf : ReadBuf := { remaining := room }
  if s.reader.pos < s.reader.buffer.length then
    done (s.reader.pollRead buf (.ok .waiting)) s.arrivals
  else
    match s.arrivals with
    | [] => none
    | .refused text :: arrivals =>
        done (s.reader.pollRead buf (.error text)) arrivals
    | .taken result true :: arrivals =>
        done (s.reader.pollRead buf (.ok (settled result))) arrivals
    | .taken result false :: arrivals =>
        (s.reader.pollRead buf (.ok .waiting)).bind fun ((reader, buf), _) =>
          done ({ reader with pending := some (settled result) }.pollRead buf
            (.ok .waiting)) arrivals

def readExact (n : Nat) (s : BulkInput) :
    SourceOutcome BulkInput ParseError (List UInt8) :=
  if n = 0 then .ok [] s
  else
    match s.read n with
    | none => .waits
    | some ⟨_, .error err, rest⟩ => .error (.io err) rest
    | some ⟨bytes, .ok (), rest⟩ =>
        if bytes = [] then .error (.io UsbDevicePacket.earlyEof) rest
        else
          match readExact (n - bytes.length) rest with
          | .ok more rest => .ok (bytes ++ more) rest
          | .error err rest => .error err rest
          | .waits => .waits
          | .panicked => .panicked
termination_by n
decreasing_by
  rename_i hn hbytes
  have hpos := List.length_pos_of_ne_nil hbytes
  omega

namespace Arrival

def data : Arrival -> List UInt8
  | refused _ => []
  | taken result _ => result.elim [] BulkResult.data

def passes : Arrival -> Bool
  | refused _ => false
  | taken none _ => false
  | taken (some result) atOnce => result.status = 0 || atOnce

def full (a : Arrival) : Bool :=
  a.data ≠ [] && a.passes

def error : Arrival -> IoError
  | refused text => submissionError text
  | taken none _ => ioError "read transfer cancelled"
  | taken (some result) atOnce =>
      if result.status = 0 || atOnce then UsbDevicePacket.earlyEof
      else ioError s!"libusb read: {libusbStatusStr result.status}"

end Arrival

def bytesOf (arrivals : List Arrival) : List UInt8 :=
  arrivals.flatMap Arrival.data

structure Holds (later : List Arrival) (s : BulkInput) (bytes : List UInt8) :
    Prop where
  pending : s.reader.pending = none
  splits : exists good, s.arrivals = good ++ later ∧
    (forall a, a ∈ good -> a.full = true) ∧
    s.reader.remainder ++ bytesOf good = bytes

/-!
## One read
-/

variable {s : BulkInput} {n : Nat} {later : List Arrival}

theorem pollBuffered_pending (reader : RusbAsyncReader) (buf : ReadBuf) :
    (reader.pollBuffered buf).fst.pending = reader.pending := by
  unfold RusbAsyncReader.pollBuffered
  simp only
  split
  · rfl
  · rfl

theorem chunkToBuf_pending (reader : RusbAsyncReader) (chunk : List UInt8)
    (buf : ReadBuf) :
    (reader.chunkToBuf chunk buf).fst.pending = reader.pending := by
  unfold RusbAsyncReader.chunkToBuf
  simp only
  split
  · rfl
  · rfl

theorem read_buffered (hpos : s.reader.pos < s.reader.buffer.length) (n : Nat) :
    exists reader, s.read n = some ⟨s.reader.remainder.take n, .ok (),
        { reader := reader, arrivals := s.arrivals }⟩ ∧
      reader.pending = s.reader.pending ∧
      reader.remainder = s.reader.remainder.drop n := by
  refine ⟨(s.reader.pollBuffered { remaining := n }).fst, ?_,
    pollBuffered_pending _ _, RusbAsyncReader.pollBuffered_remainder hpos⟩
  unfold read RusbAsyncReader.pollRead
  simp only [if_pos hpos]
  rw [← RusbAsyncReader.pollBuffered_filled]
  rfl

theorem read_passes {a : Arrival}
    (hpos : ¬ s.reader.pos < s.reader.buffer.length)
    (hpending : s.reader.pending = none) (harrivals : s.arrivals = a :: later)
    (hpasses : a.passes = true) (n : Nat) :
    exists reader, s.read n = some ⟨a.data.take n, .ok (),
        { reader := reader, arrivals := later }⟩ ∧
      reader.pending = none ∧ reader.remainder = a.data.drop n := by
  refine ⟨(RusbAsyncReader.chunkToBuf { s.reader with pending := none }
      a.data { remaining := n }).fst, ?_, chunkToBuf_pending _ _ _,
    RusbAsyncReader.chunkToBuf_remainder _ _ _⟩
  unfold read RusbAsyncReader.pollRead
  rw [← RusbAsyncReader.chunkToBuf_filled { s.reader with pending := none }]
  simp only [if_neg hpos, hpending, harrivals]
  cases a with
  | refused text => cases hpasses
  | taken result atOnce =>
      cases result with
      | none => cases hpasses
      | some result =>
          cases atOnce with
          | true => rfl
          | false =>
              have hstatus : result.status = 0 :=
                of_decide_eq_true ((Bool.or_false _).symm.trans hpasses)
              simp only [RusbAsyncReader.pollSubmitted, Receiver.poll, settled,
                Option.bind_some, if_neg hpos, RusbAsyncReader.pollInFlight,
                hstatus, ne_eq, not_true_eq_false, if_false]
              rfl

theorem read_fails {a : Arrival}
    (hpos : ¬ s.reader.pos < s.reader.buffer.length)
    (hpending : s.reader.pending = none) (harrivals : s.arrivals = a :: later)
    (hpasses : a.passes = false) (n : Nat) :
    exists rest, s.read n = some ⟨[], .error a.error, rest⟩ := by
  refine ⟨{ reader := { s.reader with pending := none }, arrivals := later },
    ?_⟩
  unfold read RusbAsyncReader.pollRead
  simp only [if_neg hpos, hpending, harrivals]
  cases a with
  | refused text => rw [← hpending]; rfl
  | taken result atOnce =>
      cases result with
      | none =>
          cases atOnce with
          | true => rfl
          | false =>
              simp only [RusbAsyncReader.pollSubmitted, Receiver.poll, settled,
                Option.bind_some, if_neg hpos, RusbAsyncReader.pollInFlight]
              rfl
      | some result =>
          rcases Bool.or_eq_false_iff.mp hpasses with ⟨hstatus, rfl⟩
          have hfailed : result.status ≠ 0 := of_decide_eq_false hstatus
          simp only [RusbAsyncReader.pollSubmitted, Receiver.poll, settled,
            Option.bind_some, if_neg hpos, RusbAsyncReader.pollInFlight,
            if_pos hfailed, Arrival.error, hstatus, Bool.or_false,
            Bool.false_eq_true, if_false]
          rfl

theorem error_of_passes {a : Arrival} (h : a.passes = true) :
    a.error = UsbDevicePacket.earlyEof := by
  cases a with
  | refused text => cases h
  | taken result atOnce =>
      cases result with
      | none => cases h
      | some result => exact if_pos h

theorem take_ne_nil {bytes : List UInt8} (hbytes : bytes ≠ []) (hn : 0 < n) :
    bytes.take n ≠ [] := by
  intro hnil
  rcases List.take_eq_nil_iff.mp hnil with hzero | hempty
  · exact Nat.ne_of_gt hn hzero
  · exact hbytes hempty

theorem length_take_le_of (bytes : List UInt8) (n : Nat) :
    (bytes.take n).length <= n := by
  rw [List.length_take]
  exact Nat.min_le_left n bytes.length

theorem read_of_bytes {bytes : List UInt8} (h : Holds later s bytes)
    (hbytes : bytes ≠ []) (hn : 0 < n) :
    exists got rest more, s.read n = some ⟨got, .ok (), rest⟩ ∧ got ≠ [] ∧
      got.length <= n ∧ bytes = got ++ more ∧ Holds later rest more := by
  rcases h.splits with ⟨good, harrivals, hgood, hsplit⟩
  by_cases hpos : s.reader.pos < s.reader.buffer.length
  · rcases read_buffered hpos n with ⟨reader, hread, hpending, hremainder⟩
    refine ⟨_, _, s.reader.remainder.drop n ++ bytesOf good, hread,
      take_ne_nil (RusbAsyncReader.remainder_ne_nil hpos) hn,
      length_take_le_of _ n, ?_, ⟨hpending.trans h.pending, good, harrivals,
        hgood, congrArg (· ++ bytesOf good) hremainder⟩⟩
    rw [← List.append_assoc, List.take_append_drop, hsplit]
  · rw [RusbAsyncReader.remainder_eq_nil hpos, List.nil_append] at hsplit
    cases good with
    | nil => exact absurd hsplit.symm hbytes
    | cons a good =>
        have hfull := hgood a List.mem_cons_self
        rcases Bool.and_eq_true_iff.mp hfull with ⟨hdata, hpasses⟩
        rcases read_passes hpos h.pending harrivals hpasses n with
          ⟨reader, hread, hpending, hremainder⟩
        refine ⟨_, _, a.data.drop n ++ bytesOf good, hread,
          take_ne_nil (of_decide_eq_true hdata) hn, length_take_le_of _ n, ?_,
          ⟨hpending, good, rfl, fun b hb => hgood b (List.mem_cons_of_mem a hb),
            congrArg (· ++ bytesOf good) hremainder⟩⟩
        rw [← List.append_assoc, List.take_append_drop, ← hsplit]
        rfl

theorem read_of_none (h : Holds later s [])
    (hlater : forall a, later.head? = some a -> a.full = false) (n : Nat) :
    (later = [] ∧ s.read n = none) ∨
      exists a rest, later.head? = some a ∧
        (s.read n = some ⟨[], .error a.error, rest⟩ ∨
          (s.read n = some ⟨[], .ok (), rest⟩ ∧
            a.error = UsbDevicePacket.earlyEof)) := by
  rcases h.splits with ⟨good, harrivals, hgood, hsplit⟩
  rcases List.append_eq_nil_iff.mp hsplit with ⟨hremainder, hbytes⟩
  have hpos : ¬ s.reader.pos < s.reader.buffer.length :=
    fun hpos => RusbAsyncReader.remainder_ne_nil hpos hremainder
  have hnone : good = [] := by
    cases good with
    | nil => rfl
    | cons a good =>
        rcases Bool.and_eq_true_iff.mp (hgood a List.mem_cons_self) with
          ⟨hdata, _⟩
        exact absurd (List.append_eq_nil_iff.mp hbytes).left
          (of_decide_eq_true hdata)
  rw [hnone, List.nil_append] at harrivals
  cases later with
  | nil =>
      refine Or.inl ⟨rfl, ?_⟩
      unfold read
      simp only [if_neg hpos, harrivals]
  | cons a later =>
      refine Or.inr ?_
      cases hpasses : a.passes with
      | false =>
          rcases read_fails hpos h.pending harrivals hpasses n with
            ⟨rest, hread⟩
          exact ⟨a, rest, rfl, Or.inl hread⟩
      | true =>
          have hdata : a.data = [] := by
            have hfull := hlater a rfl
            unfold Arrival.full at hfull
            rw [hpasses, Bool.and_true] at hfull
            exact not_not.mp (of_decide_eq_false hfull)
          rcases read_passes hpos h.pending harrivals hpasses n with
            ⟨reader, hread, _⟩
          rw [hdata, List.take_nil] at hread
          exact ⟨a, _, rfl, Or.inr ⟨hread, error_of_passes hpasses⟩⟩

/-!
## Filling a buffer
-/

def view (later : List Arrival) (ending : IoError) :
    SourceReader.View BulkInput ParseError where
  holds := Holds later
  ends := ParseError.isIo
  ending := ⟨.io ending, rfl⟩
  last := later.head?.map fun a => ⟨.io a.error, rfl⟩

def exactly (n : Nat) : SourceReader BulkInput ParseError (List UInt8) where
  run := readExact n

theorem readExact_zero (s : BulkInput) : readExact 0 s = .ok [] s := by
  rw [readExact, if_pos rfl]

theorem take_append_of_le {got : List UInt8} (hle : got.length <= n)
    (more : List UInt8) :
    (got ++ more).take n = got ++ more.take (n - got.length) ∧
      (got ++ more).drop n = more.drop (n - got.length) := by
  rw [List.take_append, List.drop_append, List.take_of_length_le hle,
    List.drop_eq_nil_of_le hle]
  exact ⟨rfl, rfl⟩

theorem agrees_append {ending : IoError} {got more : List UInt8}
    (hle : got.length <= n)
    {outcome : SourceOutcome BulkInput ParseError (List UInt8)}
    (h : SourceReader.Agrees (view later ending) outcome
      ((Reader.readExact (.io ending) (n - got.length)).run more)) :
    SourceReader.Agrees (view later ending)
      (match outcome with
        | .ok more rest => .ok (got ++ more) rest
        | .error err rest => .error err rest
        | .waits => .waits
        | .panicked => .panicked)
      ((Reader.readExact (.io ending) n).run (got ++ more)) := by
  rcases take_append_of_le hle more with ⟨htake, hdrop⟩
  by_cases hmore : n - got.length <= more.length
  · rw [Reader.run_readExact_of_le _ hmore] at h
    rw [Reader.run_readExact_of_le _ (by rw [List.length_append]; omega), htake,
      hdrop]
    cases h with
    | ok hholds => exact .ok hholds
  · rw [Reader.run_readExact_of_lt _ (Nat.not_le.mp hmore)] at h
    rw [Reader.run_readExact_of_lt _ (by rw [List.length_append]; omega)]
    cases h with
    | error he hholds => exact .error he hholds
    | waits hlast => exact .waits hlast
    | ended hlast => exact .ended hlast

theorem exactly_follows
    (hlater : forall a, later.head? = some a -> a.full = false)
    (ending : IoError) (n : Nat) :
    SourceReader.Follows (view later ending) (exactly n)
      (Reader.readExact (.io ending) n) := by
  intro s bytes h
  show SourceReader.Agrees _ (readExact n s) _
  induction n using Nat.strongRecOn generalizing s bytes with
  | ind n ih =>
      by_cases hn : n = 0
      · subst hn
        rw [readExact_zero, Reader.run_readExact_of_le _ (Nat.zero_le _)]
        exact .ok h
      · have hpos : 0 < n := Nat.pos_of_ne_zero hn
        rw [readExact, if_neg hn]
        by_cases hbytes : bytes = []
        · subst hbytes
          rw [Reader.run_readExact_of_lt (.io ending : ParseError) hpos]
          have hended {a : Arrival} (hhead : later.head? = some a) :
              (view later ending).last = some ⟨.io a.error, rfl⟩ :=
            congrArg (Option.map _) hhead
          rcases read_of_none h hlater n with
            ⟨rfl, hread⟩ | ⟨a, rest, hhead, hread | ⟨hread, herror⟩⟩
          · rw [hread]
            exact .waits rfl
          · rw [hread]
            exact .ended (hended hhead)
          · rw [hread]
            simp only [if_true, ← herror]
            exact .ended (hended hhead)
        · rcases read_of_bytes h hbytes hpos with
            ⟨got, rest, more, hread, hgot, hle, rfl, hrest⟩
          have hless : n - got.length < n :=
            Nat.sub_lt hpos (List.length_pos_of_ne_nil hgot)
          simp only [hread, if_neg hgot]
          exact agrees_append hle (ih (n - got.length) hless rest more hrest)

/-!
## Reading packets
-/

end BulkInput

end Device

namespace Parser

open Device

def UsbDevicePacketHeader.fromEndpoint :
    SourceReader BulkInput ParseError UsbDevicePacketHeader := do
  let first <- BulkInput.exactly UsbDevicePacketHeaderV1.size
  let protocol <- SourceReader.ofExcept
    (UsbDevicePacketProtocol.new (field first 0 4))
  match protocol with
  | .version => pure (v1 (.decode first))
  | .tcp | .setup | .control => do
      let second <- BulkInput.exactly
        (UsbDevicePacketHeaderV2.size - UsbDevicePacketHeaderV1.size)
      pure (v2 (.decode (first ++ second)))

namespace UsbDevicePacket

def tcpHeaderFromEndpoint (E : TcpHeaderReader) : UsbDevicePacketProtocol ->
    SourceReader BulkInput ParseError (Option TcpHeader)
  | .tcp => do
      let tcpHdrBuff <- BulkInput.exactly TcpHeader.minLen
      let parsed <- SourceReader.ofExcept
        ((E.fromSlice tcpHdrBuff).mapError .tcpHeaderSlice)
      pure (some parsed.fst)
  | _ => pure none

def payloadFromEndpoint (header : UsbDevicePacketHeader)
    (protocol : UsbDevicePacketProtocol) (tcpHdr : Option TcpHeader) :
    SourceReader BulkInput ParseError UsbDevicePacketPayload :=
  let tcpHdrLen := tcpHdr.elim 0 TcpHeader.headerLen
  let totalHeaderLen := header.size + tcpHdrLen
  let totalLength := header.getLength.toNat
  if totalLength < totalHeaderLen then
    SourceReader.throw (.invalidData
      s!"packet length {totalLength} is less than header size {totalHeaderLen}")
  else do
    let payloadLen <- SourceReader.orPanic
      (usizeSub totalLength totalHeaderLen)
    let payload <- BulkInput.exactly payloadLen
    SourceReader.orPanic (UsbDevicePacketPayload.decode payload protocol)

def fromEndpoint (E : TcpHeaderReader) :
    SourceReader BulkInput ParseError UsbDevicePacket := do
  let header <- UsbDevicePacketHeader.fromEndpoint
  let protocol <- SourceReader.orPanic header.getProtocol
  let tcpHdr <- tcpHeaderFromEndpoint E protocol
  let payload <- payloadFromEndpoint header protocol tcpHdr
  pure { header := header, tcpHdr := tcpHdr, payload := payload }

end UsbDevicePacket

section Follows

variable {later : List BulkInput.Arrival}
  (hlater : forall a, later.head? = some a -> a.full = false)
  (ending : IoError)

theorem UsbDevicePacketProtocol.isIo_of_new {word : List UInt8} {e : ParseError}
    (h : UsbDevicePacketProtocol.new word = .error e) : e.isIo = false := by
  unfold UsbDevicePacketProtocol.new at h
  split at h
  · cases h
  · cases h
    rfl

theorem TcpHeaderReader.isIo_of_mapError (E : TcpHeaderReader)
    {bytes : List UInt8} {e : ParseError}
    (h : (E.fromSlice bytes).mapError .tcpHeaderSlice = .error e) :
    e.isIo = false := by
  generalize E.fromSlice bytes = parsed at h
  cases parsed with
  | ok parsed => cases h
  | error err =>
      cases h
      rfl

open SourceReader BulkInput

include hlater in
theorem UsbDevicePacketHeader.fromEndpoint_follows :
    Follows (view later ending) fromEndpoint (fromReader ending) := by
  apply follows_bind (exactly_follows hlater ending _)
  intro first
  apply follows_bind
    (follows_ofExcept fun _ => UsbDevicePacketProtocol.isIo_of_new)
  intro protocol
  have hsecond := follows_bind
    (exactly_follows hlater ending
      (UsbDevicePacketHeaderV2.size - UsbDevicePacketHeaderV1.size))
    fun second => follows_pure (v2 (.decode (first ++ second)))
  cases protocol with
  | version => exact follows_pure _
  | tcp => exact hsecond
  | setup => exact hsecond
  | control => exact hsecond

namespace UsbDevicePacket

include hlater in
theorem fromEndpoint_follows (E : TcpHeaderReader) :
    Follows (view later ending) (fromEndpoint E) (fromReader E ending) := by
  apply follows_bind (UsbDevicePacketHeader.fromEndpoint_follows hlater ending)
  intro header
  apply follows_bind (follows_orPanic _)
  intro protocol
  apply follows_bind
  · cases protocol with
    | tcp =>
        apply follows_bind (exactly_follows hlater ending _)
        intro tcpHdrBuff
        apply follows_bind (follows_ofExcept fun _ => E.isIo_of_mapError)
        intro parsed
        exact follows_pure _
    | version => exact follows_pure _
    | control => exact follows_pure _
    | setup => exact follows_pure _
  · intro tcpHdr
    apply follows_bind
    · unfold payloadFromEndpoint readPayload
      simp only
      split
      · exact follows_throw rfl
      · apply follows_bind (follows_orPanic _)
        intro payloadLen
        apply follows_bind (exactly_follows hlater ending _)
        intro payload
        exact follows_orPanic _
    · intro payload
      exact follows_pure _

end UsbDevicePacket

end Follows

end Parser

namespace Device
namespace BulkInput

open SourceReader (LoopEnd)

/--
What the reader loop reads in its first rounds, from a reader that has part of
a transfer left: it goes on after an error that is not one of the endpoint.
-/
def readPackets (E : TcpHeaderReader) (n : Nat) (buffer : List UInt8)
    (pos : Nat) (arrivals : List Arrival) :
    List (Except ParseError UsbDevicePacket) × LoopEnd ParseError :=
  (UsbDevicePacket.fromEndpoint E).rounds (fun e => !e.isIo) n
    { reader := { buffer := buffer, pos := pos }, arrivals := arrivals }

def packetsOf (E : TcpHeaderReader) (ending : IoError) (n : Nat)
    (bytes : List UInt8) :
    List (Except ParseError UsbDevicePacket) × LoopEnd ParseError :=
  (UsbDevicePacket.fromReader E ending).rounds (fun e => !e.isIo) n bytes

def endAt (later : List Arrival) : LoopEnd ParseError -> LoopEnd ParseError
  | .failed _ => later.head?.elim .waits fun a => .failed (.io a.error)
  | e => e

theorem head_dropWhile_full (arrivals : List Arrival) (a : Arrival)
    (h : (arrivals.dropWhile Arrival.full).head? = some a) :
    a.full = false := by
  have hnot := List.head?_dropWhile_not Arrival.full arrivals
  rw [h] at hnot
  exact hnot

theorem endOf_view (later : List Arrival) (ending : IoError)
    (e : LoopEnd ParseError) :
    (view later ending).endOf e = endAt later e := by
  cases e with
  | failed err =>
      cases later with
      | nil => rfl
      | cons a later => rfl
  | unfinished => rfl
  | waits => rfl
  | panicked => rfl

/--
The reader loop reads what the bytes of the transfers say, however these were
cut, up to the first transfer that gives none.  There it stops with the error of
that transfer, even if it is only an empty one.
-/
theorem readPackets_bytesOf (E : TcpHeaderReader) (ending : IoError) (n : Nat)
    (buffer : List UInt8) (pos : Nat) (arrivals : List Arrival) :
    let bytes := buffer.drop pos ++ bytesOf (arrivals.takeWhile Arrival.full)
    readPackets E n buffer pos arrivals =
      ((packetsOf E ending n bytes).fst,
        endAt (arrivals.dropWhile Arrival.full)
          (packetsOf E ending n bytes).snd) := by
  intro bytes
  have hholds : Holds (arrivals.dropWhile Arrival.full)
      { reader := { buffer := buffer, pos := pos }, arrivals := arrivals }
      bytes :=
    ⟨rfl, arrivals.takeWhile Arrival.full,
      List.takeWhile_append_dropWhile.symm,
      fun a ha => List.mem_takeWhile_imp ha, rfl⟩
  have hfollows := UsbDevicePacket.fromEndpoint_follows
    (head_dropWhile_full arrivals) ending E
  have hrounds := SourceReader.rounds_follows hfollows n hholds
  unfold readPackets packetsOf
  rw [← endOf_view (arrivals.dropWhile Arrival.full) ending]
  exact hrounds

end BulkInput

end Device
end Rusbmux
