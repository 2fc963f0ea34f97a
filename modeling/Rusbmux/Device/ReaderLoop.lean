import Rusbmux.Foundation.ReadLoop
import Rusbmux.Parser.DeviceMuxFraming

/-!
# Reading packets from a device

A device is read by two loops, one after the other.  While the device is opened,
`UsbDevice::new_with_disconnect_tx` reads packets until one carries a version
record and gives up on the first error.  From then on `start_reader_loop` reads
packets for as long as the device is there: it ends on an input/output error and
goes on after every other error.  What is done with a packet does not move the
stream.
-/

namespace Rusbmux
namespace Device

open Foundation
open Rusbmux.Parser

def openLoopStep (E : TcpHeaderReader) (ending : IoError) :
    ReadLoop -> ReadLoop :=
  ReadLoop.step (UsbDevicePacket.fromReader E ending)
    (fun packet => !packet.payload.isVersion) (fun _ => false)

def readerLoopStep (E : TcpHeaderReader) (ending : IoError) :
    ReadLoop -> ReadLoop :=
  ReadLoop.step (UsbDevicePacket.fromReader E ending)
    (fun _ => true) (fun err => !err.isIo)

/-!
## The rounds by the words of the frame
-/

def openVerdict (E : TcpHeaderReader) (s : List UInt8) : ReadLoop.Verdict :=
  match frameVerdict E s with
  | .ends => .stops
  | .rejected _ => .stops
  | .misSized => .panics
  | .accepted .version n => .leaves n
  | .accepted _ n => .goesOn n

def readerVerdict (E : TcpHeaderReader) (s : List UInt8) : ReadLoop.Verdict :=
  match frameVerdict E s with
  | .ends => .stops
  | .rejected n => .goesOn n
  | .misSized => .panics
  | .accepted _ n => .goesOn n

theorem openLoopStep_follows (E : TcpHeaderReader) (ending : IoError)
    (s : List UInt8) :
    openLoopStep E ending (.reading s) = (openVerdict E s).next s := by
  have hagrees := UsbDevicePacket.fromReader_verdict E ending s
  unfold openLoopStep openVerdict
  rw [ReadLoop.step_reading]
  cases hverdict : frameVerdict E s with
  | ends =>
      rw [hverdict] at hagrees
      change _ = Outcome.error _ _ at hagrees
      rw [hagrees]
      rfl
  | rejected n =>
      rw [hverdict] at hagrees
      rcases hagrees with ⟨e, _, hrun⟩
      rw [hrun]
      rfl
  | misSized =>
      rw [hverdict] at hagrees
      change _ = Outcome.panicked at hagrees
      rw [hagrees]
      rfl
  | accepted p n =>
      rw [hverdict] at hagrees
      rcases hagrees with ⟨packet, hrun, hversion⟩
      rw [hrun]
      cases p with
      | version =>
          have hpayload : packet.payload.isVersion = true := hversion.mpr rfl
          simp [hpayload, ReadLoop.Verdict.next]
      | control =>
          have hpayload : packet.payload.isVersion = false := by
            simpa using hversion
          simp [hpayload, ReadLoop.Verdict.next]
      | setup =>
          have hpayload : packet.payload.isVersion = false := by
            simpa using hversion
          simp [hpayload, ReadLoop.Verdict.next]
      | tcp =>
          have hpayload : packet.payload.isVersion = false := by
            simpa using hversion
          simp [hpayload, ReadLoop.Verdict.next]

theorem readerLoopStep_follows (E : TcpHeaderReader) (ending : IoError)
    (s : List UInt8) :
    readerLoopStep E ending (.reading s) = (readerVerdict E s).next s := by
  have hagrees := UsbDevicePacket.fromReader_verdict E ending s
  unfold readerLoopStep readerVerdict
  rw [ReadLoop.step_reading]
  cases hverdict : frameVerdict E s with
  | ends =>
      rw [hverdict] at hagrees
      change _ = Outcome.error _ _ at hagrees
      rw [hagrees]
      rfl
  | rejected n =>
      rw [hverdict] at hagrees
      rcases hagrees with ⟨e, he, hrun⟩
      rw [hrun]
      simp [he, ReadLoop.Verdict.next]
  | misSized =>
      rw [hverdict] at hagrees
      change _ = Outcome.panicked at hagrees
      rw [hagrees]
      rfl
  | accepted p n =>
      rw [hverdict] at hagrees
      rcases hagrees with ⟨packet, hrun, _⟩
      rw [hrun]
      rfl

/-!
## Panics

The only step of the parser that can stop the program is the cast of a version
payload: a version frame whose length word gives a payload of another size.
-/

theorem openVerdict_eq_panics_iff (E : TcpHeaderReader) (s : List UInt8) :
    openVerdict E s = .panics <-> MisSizedVersion s := by
  rw [← frameVerdict_eq_misSized_iff E s]
  unfold openVerdict
  cases frameVerdict E s with
  | ends => simp
  | rejected n => simp
  | misSized => simp
  | accepted p n => cases p <;> simp

theorem readerVerdict_eq_panics_iff (E : TcpHeaderReader) (s : List UInt8) :
    readerVerdict E s = .panics <-> MisSizedVersion s := by
  rw [← frameVerdict_eq_misSized_iff E s]
  unfold readerVerdict
  cases frameVerdict E s <;> simp

theorem openVerdict_eq_leaves_iff (E : TcpHeaderReader) (s : List UInt8)
    (taken : Nat) :
    openVerdict E s = .leaves taken <->
      VersionFrame s ∧ taken = lengthWord s := by
  rw [← frameVerdict_eq_accepted_version_iff E s taken]
  unfold openVerdict
  cases frameVerdict E s with
  | ends => simp
  | rejected n => simp
  | misSized => simp
  | accepted p n => cases p <;> simp

/--
No read of the device, from its opening to the end of its stream, stops the
program.
-/
def NeverPanics (E : TcpHeaderReader) (ending : IoError)
    (stream : List UInt8) : Prop :=
  (forall n, (openLoopStep E ending)^[n] (.reading stream) ≠ .panicked) ∧
    forall rest,
      (exists n, (openLoopStep E ending)^[n] (.reading stream) = .left rest) ->
        forall n, (readerLoopStep E ending)^[n] (.reading rest) ≠ .panicked

/--
No position at which a read of the device starts holds a version frame of
another size.  The positions are those the frame words lead to: first from the
start of the stream to a version frame, then from the end of that frame on.
-/
def NoMisSizedVersion (E : TcpHeaderReader) (stream : List UInt8) : Prop :=
  forall opened, ReadLoop.Visits (openVerdict E) stream opened ->
    ¬ MisSizedVersion opened ∧
      (VersionFrame opened ->
        forall s,
          ReadLoop.Visits (readerVerdict E)
              (opened.drop (lengthWord opened)) s ->
            ¬ MisSizedVersion s)

theorem neverPanics_iff (E : TcpHeaderReader) (ending : IoError)
    (stream : List UInt8) :
    NeverPanics E ending stream <-> NoMisSizedVersion E stream := by
  have hopen := ReadLoop.never_panics_iff (openLoopStep_follows E ending)
    (ReadLoop.step_of_not_reading _ _ _) stream
  have hleft := ReadLoop.left_iff (openLoopStep_follows E ending)
    (ReadLoop.step_of_not_reading _ _ _) stream
  have hread := fun rest => ReadLoop.never_panics_iff
    (readerLoopStep_follows E ending) (ReadLoop.step_of_not_reading _ _ _) rest
  simp only [openVerdict_eq_panics_iff, ne_eq] at hopen
  simp only [readerVerdict_eq_panics_iff, ne_eq] at hread
  unfold NeverPanics
  constructor
  · intro h opened hvisits
    constructor
    · exact hopen.mp h.left opened hvisits
    · intro hversion
      have hopened := (hleft (opened.drop (lengthWord opened))).mpr
        ⟨opened, lengthWord opened, hvisits,
          (openVerdict_eq_leaves_iff E opened _).mpr ⟨hversion, rfl⟩, rfl⟩
      exact (hread _).mp (h.right _ hopened)
  · intro h
    constructor
    · apply hopen.mpr
      intro opened hvisits
      exact (h opened hvisits).left
    · intro rest hrest
      rcases (hleft rest).mp hrest with
        ⟨opened, taken, hvisits, hverdict, rfl⟩
      rcases (openVerdict_eq_leaves_iff E opened taken).mp hverdict with
        ⟨hversion, rfl⟩
      exact (hread _).mpr ((h opened hvisits).right hversion)

/-- A version frame of eight bytes stops the program as the device is opened. -/
theorem not_neverPanics_emptyVersion :
    ¬ forall (E : TcpHeaderReader) (ending : IoError) (stream : List UInt8),
      NeverPanics E ending stream := by
  intro h
  have hpanics := (h .standard { kind := .unexpectedEof }
    [0, 0, 0, 0, 0, 0, 0, 8]).left 1
  apply hpanics
  rfl

/-!
## Frame boundaries

The reader loop goes on after a refused frame.  It starts the next read at the
next frame only if the refusal came after the frame's last byte.
-/

/--
On a stream of complete frames, every read of `start_reader_loop` takes
exactly one frame, and so starts at the first byte of a frame.
-/
def KeepsFraming (E : TcpHeaderReader) (ending : IoError)
    (frames : List DeviceFrame) (tail : List UInt8) : Prop :=
  ReadLoop.KeepsBoundaries (UsbDevicePacket.fromReader E ending)
    (fun _ => true) (fun err => !err.isIo) (fun err => !err.isIo)
    (frames.map DeviceFrame.bytes) tail

theorem consumesExactly_of_rejected {E : TcpHeaderReader} {ending : IoError}
    {frame later : List UInt8} {n : Nat}
    (hverdict : frameVerdict E (frame ++ later) = .rejected n)
    (hn : n <= frame.length) :
    ReadLoop.ConsumesExactly (UsbDevicePacket.fromReader E ending)
        (fun err => !err.isIo) frame later <->
      frame.length = n := by
  have hagrees :=
    UsbDevicePacket.fromReader_verdict E ending (frame ++ later)
  rw [hverdict] at hagrees
  rcases hagrees with ⟨e, he, hrun⟩
  unfold ReadLoop.ConsumesExactly
  rw [hrun]
  constructor
  · intro h
    rcases h with ⟨v, hv⟩ | ⟨e', _, he'⟩
    · cases hv
    · injection he' with _ hrest
      exact ((drop_append_eq_right_iff hn).mp hrest).symm
  · intro hlen
    refine Or.inr ⟨e, by simp [he], ?_⟩
    rw [(drop_append_eq_right_iff hn).mpr hlen.symm]

theorem not_consumesExactly_of_misSized {E : TcpHeaderReader}
    {ending : IoError} {frame later : List UInt8}
    (hverdict : frameVerdict E (frame ++ later) = .misSized) :
    ¬ ReadLoop.ConsumesExactly (UsbDevicePacket.fromReader E ending)
        (fun err => !err.isIo) frame later := by
  have hagrees :=
    UsbDevicePacket.fromReader_verdict E ending (frame ++ later)
  rw [hverdict] at hagrees
  change _ = Outcome.panicked at hagrees
  unfold ReadLoop.ConsumesExactly
  rw [hagrees]
  intro h
  rcases h with ⟨v, hv⟩ | ⟨e, _, he⟩
  · cases hv
  · cases he

theorem consumesExactly_of_accepted {E : TcpHeaderReader} {ending : IoError}
    {frame later : List UInt8} {p : UsbDevicePacketProtocol}
    (hverdict : frameVerdict E (frame ++ later) = .accepted p frame.length) :
    ReadLoop.ConsumesExactly (UsbDevicePacket.fromReader E ending)
      (fun err => !err.isIo) frame later := by
  have hagrees :=
    UsbDevicePacket.fromReader_verdict E ending (frame ++ later)
  rw [hverdict] at hagrees
  rcases hagrees with ⟨packet, hrun, _⟩
  rw [List.drop_left] at hrun
  exact Or.inl ⟨packet, hrun⟩

theorem frameVerdict_append (E : TcpHeaderReader) (f : DeviceFrame)
    {p : UsbDevicePacketProtocol} (hp : frameProtocol f.bytes = some p)
    (later : List UInt8) :
    frameVerdict E (f.bytes ++ later) =
      if tcpReadable E p f.bytes = false then .rejected (headersLen p)
      else if payloadFits p f.bytes = false then .misSized
      else .accepted p f.bytes.length := by
  have hlength := f.lengthWord_append later
  rw [frameVerdict_of_complete E
    (by rw [f.frameProtocol_append, hp])
    (by rw [hlength]; exact f.headersLen_le hp)
    (by rw [hlength, List.length_append]; omega),
    f.tcpReadable_append E hp, hlength]
  have hfits : payloadFits p (f.bytes ++ later) = payloadFits p f.bytes := by
    unfold payloadFits
    rw [hlength, f.length_eq]
  rw [hfits]

theorem consumesExactly_iff (E : TcpHeaderReader) (ending : IoError)
    (f : DeviceFrame) (later : List UInt8) :
    ReadLoop.ConsumesExactly (UsbDevicePacket.fromReader E ending)
        (fun err => !err.isIo) f.bytes later <->
      f.ReadToEnd E := by
  unfold DeviceFrame.ReadToEnd
  cases hp : frameProtocol f.bytes with
  | none =>
      have hverdict := frameVerdict_of_unknown E
        (s := f.bytes ++ later) (by rw [f.frameProtocol_append, hp])
        (by
          rw [List.length_append]
          exact Nat.le_trans f.headerV1_le (Nat.le_add_right _ _))
      exact consumesExactly_of_rejected hverdict f.headerV1_le
  | some p =>
      have hverdict := frameVerdict_append E f hp later
      cases p with
      | version =>
          rw [if_neg (by simp [tcpReadable])] at hverdict
          by_cases hfits : payloadFits .version f.bytes = false
          · rw [if_pos hfits] at hverdict
            have hsize :=
              ((payloadFits_eq_false_iff _ _).mp hfits).right
            rw [f.length_eq] at hsize
            exact iff_of_false (not_consumesExactly_of_misSized hverdict) hsize
          · rw [if_neg hfits] at hverdict
            have hsize : f.bytes.length = UsbDevicePacketHeaderV1.size +
                UsbDevicePacketVersion.size := by
              rw [← f.length_eq]
              by_contra hsize
              exact hfits ((payloadFits_eq_false_iff _ _).mpr ⟨rfl, hsize⟩)
            exact iff_of_true (consumesExactly_of_accepted hverdict) hsize
      | control =>
          exact iff_of_true (consumesExactly_of_accepted hverdict) trivial
      | setup =>
          exact iff_of_true (consumesExactly_of_accepted hverdict) trivial
      | tcp =>
          cases hread : E.fromSlice (tcpSlice f.bytes) with
          | error e =>
              have hunreadable : tcpReadable E .tcp f.bytes = false := by
                simp only [tcpReadable, hread]
                rfl
              rw [if_pos hunreadable] at hverdict
              rw [consumesExactly_of_rejected hverdict (f.headersLen_le hp)]
              constructor
              · intro hlen
                exact Or.inr hlen
              · intro h
                rcases h with ⟨parsed, hparsed⟩ | hlen
                · cases hparsed
                · exact hlen
          | ok parsed =>
              have hreadable : ¬ tcpReadable E .tcp f.bytes = false := by
                simp only [tcpReadable, hread]
                exact Bool.noConfusion
              rw [if_neg hreadable, if_neg (by simp [payloadFits])] at hverdict
              exact iff_of_true (consumesExactly_of_accepted hverdict)
                (Or.inl ⟨parsed, rfl⟩)

theorem keepsFraming_iff (E : TcpHeaderReader) (ending : IoError)
    (frames : List DeviceFrame) (tail : List UInt8) :
    KeepsFraming E ending frames tail <->
      forall f, f ∈ frames -> f.ReadToEnd E :=
  ReadLoop.keepsBoundaries_map_iff _ _ (fun _ h => h) DeviceFrame.bytes
    (consumesExactly_iff E ending) frames tail

def unknownFrame : DeviceFrame where
  bytes := [0, 0, 0, 3, 0, 0, 0, 16, 1, 2, 3, 4, 5, 6, 7, 8]
  length_eq := rfl
  minFrameLen_le := by decide

/-- A frame of an unknown protocol is refused with its payload left unread. -/
theorem not_keepsFraming_unknownFrame :
    ¬ forall (E : TcpHeaderReader) (ending : IoError)
      (frames : List DeviceFrame) (tail : List UInt8),
      KeepsFraming E ending frames tail := by
  intro h
  have hconsumes := (h .standard { kind := .unexpectedEof } [unknownFrame] []
    [] unknownFrame.bytes [] rfl).left
  rcases hconsumes with ⟨packet, hok⟩ | ⟨e, _, herr⟩
  · cases hok
  · cases herr

end Device
end Rusbmux
