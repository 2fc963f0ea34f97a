import Rusbmux.Conn.Usb
import Rusbmux.Error
import Rusbmux.Foundation.Conduit
import Rusbmux.Foundation.Machine
import Rusbmux.UsbBackend.BulkTransfer

/-!
# Writing to a bulk endpoint

`RusbAsyncWriter` of `usb_backend/rusb/mod.rs`, with the transfers that it has
submitted in the place of the device handle.  Small writes are kept in a buffer
until the packet ends.  A write that fills the buffer submits it and returns
`Pending`, so that the caller repeats it.
-/

namespace Rusbmux
namespace UsbBackend

open Foundation

structure RusbAsyncWriter where
  maxPacketSize : Nat
  buffer : List UInt8 := []
  currentTransferLen : Nat := 0
  pending : Option Receiver := none
  endpoint : List (List UInt8) := []
deriving DecidableEq, Repr

namespace RusbAsyncWriter

def autoFlushLen : Nat :=
  Rusbmux.maxPacketSize * 2

def writeBulk (s : RusbAsyncWriter) (data : List UInt8) :
    Except String Unit -> RusbAsyncWriter × Except RusbmuxError Unit
  | .ok () => ({ s with endpoint := s.endpoint ++ [data] }, .ok ())
  | .error text => (s, .error (.rusbError text))

/-- The first half of `sync_flush_and_zlp`. -/
def syncFlush (s : RusbAsyncWriter) (flushed : Except String Unit) :
    RusbAsyncWriter × Except RusbmuxError Unit :=
  if s.buffer.isEmpty then (s, .ok ())
  else
    { s with
      buffer := []
      currentTransferLen := s.currentTransferLen + s.buffer.length
    }.writeBulk s.buffer flushed

/-- The second half of `sync_flush_and_zlp`. -/
def zlp (s : RusbAsyncWriter) (ended : Except String Unit) :
    RusbAsyncWriter × Except RusbmuxError Unit :=
  if 0 < s.currentTransferLen ∧ s.currentTransferLen % s.maxPacketSize = 0 then
    s.writeBulk [] ended
  else
    (s, .ok ())

def syncFlushAndZlp (s : RusbAsyncWriter) (flushed ended : Except String Unit) :
    RusbAsyncWriter × Except RusbmuxError Unit :=
  match s.syncFlush flushed with
  | (s, .error err) => (s, .error err)
  | (s, .ok ()) =>
      match s.zlp ended with
      | (s, .error err) => (s, .error err)
      | (s, .ok ()) => ({ s with currentTransferLen := 0 }, .ok ())

def submitEnd (s : RusbAsyncWriter) (flushed ended : Except String Unit) :
    RusbAsyncWriter × Except RusbmuxError Unit :=
  s.syncFlushAndZlp flushed ended

def pollWriteInFlight (s : RusbAsyncWriter) (rx : Receiver) :
    Option (RusbAsyncWriter × Poll (IoResult Nat)) :=
  match rx.poll with
  | none => none
  | some (.ready (some result)) =>
      if result.status ≠ 0 then
        some ({ s with pending := some .finished },
          .ready (.error (ioError "transfer failed")))
      else
        some ({ s with pending := some .finished }, .pending)
  | some (.ready none) =>
      some ({ s with pending := none },
        .ready (.error (ioError "write transfer cancelled")))
  | some .pending => some (s, .pending)

def pollWrite (s : RusbAsyncWriter) (buf : List UInt8)
    (submitted : Submission) :
    Option (RusbAsyncWriter × Poll (IoResult Nat)) :=
  match s.pending with
  | some rx => s.pollWriteInFlight rx
  | none =>
      if buf.isEmpty then some (s, .ready (.ok 0))
      else
        let data := s.buffer ++ buf
        if autoFlushLen <= data.length then
          match submitted with
          | .ok rx =>
              some ({ s with
                  buffer := []
                  currentTransferLen := s.currentTransferLen + buf.length
                  pending := some rx
                  endpoint := s.endpoint ++ [data] },
                .pending)
          | .error text =>
              some ({ s with buffer := [] },
                .ready (.error (submissionError text)))
        else
          some ({ s with buffer := data }, .ready (.ok buf.length))

def pollFlushInFlight (s : RusbAsyncWriter) (rx : Receiver) :
    Option (RusbAsyncWriter × Poll (IoResult Unit)) :=
  match rx.poll with
  | none => none
  | some (.ready (some result)) =>
      if result.status ≠ 0 then
        some ({ s with pending := none }, .ready (.error
          (ioError s!"libusb write: {libusbStatusStr result.status}")))
      else
        some ({ s with pending := none }, .ready (.ok ()))
  | some (.ready none) =>
      some ({ s with pending := none },
        .ready (.error (ioError "write transfer cancelled")))
  | some .pending => some ({ s with pending := some rx }, .pending)

def pollFlush (s : RusbAsyncWriter) (submitted : Submission) :
    Option (RusbAsyncWriter × Poll (IoResult Unit)) :=
  match s.pending with
  | some rx => s.pollFlushInFlight rx
  | none =>
      if s.buffer.isEmpty then some (s, .ready (.ok ()))
      else
        match submitted with
        | .ok rx =>
            { s with
              buffer := []
              currentTransferLen := s.currentTransferLen + s.buffer.length
              endpoint := s.endpoint ++ [s.buffer] }.pollFlushInFlight rx
        | .error text =>
            some ({ s with buffer := [] },
              .ready (.error (submissionError text)))

/-!
## The end of a packet
-/

def lastTransfer (s : RusbAsyncWriter) : List (List UInt8) :=
  if s.buffer.isEmpty then [] else [s.buffer]

def zeroLength (s : RusbAsyncWriter) : List (List UInt8) :=
  if 0 < s.currentTransferLen + s.buffer.length ∧
      (s.currentTransferLen + s.buffer.length) % s.maxPacketSize = 0 then
    [[]]
  else
    []

theorem flatten_lastTransfer (s : RusbAsyncWriter) :
    s.lastTransfer.flatten = s.buffer := by
  unfold lastTransfer
  split
  · rename_i hempty
    exact (List.isEmpty_iff.mp hempty).symm
  · exact List.append_nil _

theorem flatten_zeroLength (s : RusbAsyncWriter) :
    s.zeroLength.flatten = [] := by
  unfold zeroLength
  split
  · rfl
  · rfl

theorem syncFlush_ok (s : RusbAsyncWriter) :
    s.syncFlush (.ok ()) =
      ({ s with
          buffer := []
          currentTransferLen := s.currentTransferLen + s.buffer.length
          endpoint := s.endpoint ++ s.lastTransfer },
        .ok ()) := by
  unfold syncFlush lastTransfer
  split
  · rename_i hempty
    rw [List.isEmpty_iff.mp hempty, List.append_nil]
    cases s
    cases List.isEmpty_iff.mp hempty
    rfl
  · rfl

theorem submitEnd_ok (s : RusbAsyncWriter) :
    s.submitEnd (.ok ()) (.ok ()) =
      ({ s with
          buffer := []
          currentTransferLen := 0
          endpoint := s.endpoint ++ s.lastTransfer ++ s.zeroLength },
        .ok ()) := by
  unfold submitEnd syncFlushAndZlp zlp zeroLength
  rw [syncFlush_ok]
  by_cases hmultiple : 0 < s.currentTransferLen + s.buffer.length ∧
      (s.currentTransferLen + s.buffer.length) % s.maxPacketSize = 0
  · simp only [if_pos hmultiple]
    rfl
  · simp only [if_neg hmultiple, List.append_nil]

theorem pollFlushInFlight_eq_some {s t : RusbAsyncWriter} {rx : Receiver}
    {result : Poll (IoResult Unit)}
    (hflush : s.pollFlushInFlight rx = some (t, result)) :
    exists pending, t = { s with pending := pending } ∧
      forall other, pending = some other -> other = rx := by
  cases rx with
  | waiting =>
      cases hflush
      refine ⟨some .waiting, rfl, ?_⟩
      intro other hother
      cases hother
      rfl
  | closed =>
      cases hflush
      exact ⟨none, rfl, nofun⟩
  | finished => cases hflush
  | ready found =>
      unfold pollFlushInFlight Receiver.poll at hflush
      simp only at hflush
      split at hflush
      · cases hflush
        exact ⟨none, rfl, nofun⟩
      · cases hflush
        exact ⟨none, rfl, nofun⟩

end RusbAsyncWriter

/-!
## Using a writer
-/

/-- A writer with what the writes made on it have returned. -/
structure WriterUse where
  writer : RusbAsyncWriter
  /-- The buffer of the last write, if it has returned `Pending`. -/
  outstanding : Option (List UInt8) := none
  reported : List UInt8 := []
  /-- The transfers that were in flight when a write returned `Pending`. -/
  waits : List (Option Receiver) := []

namespace WriterUse

open RusbAsyncWriter

def start (maxPacketSize : Nat) : WriterUse where
  writer := { maxPacketSize := maxPacketSize }

inductive Action where
  | pollWrite (buf : List UInt8) (submitted : Submission)
  | repeatWrite (submitted : Submission)
  | pollFlush (submitted : Submission)
  | submitEnd (flushed ended : Except String Unit)
  | complete (result : BulkResult)
  | close

def write (u : WriterUse) (buf : List UInt8) (submitted : Submission) :
    Option WriterUse :=
  (u.writer.pollWrite buf submitted).map fun (writer, result) =>
    match result with
    | .ready (.ok n) =>
        { u with
          writer := writer
          outstanding := none
          reported := u.reported ++ buf.take n }
    | .ready (.error _) => { u with writer := writer, outstanding := none }
    | .pending =>
        { u with
          writer := writer
          outstanding := some buf
          waits := u.waits ++ [writer.pending] }

def settle (u : WriterUse) (rx : Receiver) : Option WriterUse :=
  if u.writer.pending = some .waiting then
    some { u with writer := { u.writer with pending := some rx } }
  else
    none

def step : Machine WriterUse Action := fun u a =>
  match a with
  | .pollWrite buf submitted => u.write buf submitted
  | .repeatWrite submitted =>
      u.outstanding.bind fun buf => u.write buf submitted
  | .pollFlush submitted =>
      (u.writer.pollFlush submitted).map fun (writer, _) =>
        { u with writer := writer }
  | .submitEnd flushed ended =>
      some { u with writer := (u.writer.submitEnd flushed ended).fst }
  | .complete result => u.settle (.ready result)
  | .close => u.settle .closed

theorem write_of_full {u : WriterUse} {buf : List UInt8} (rx : Receiver)
    (hpending : u.writer.pending = none) (hbuf : buf ≠ [])
    (hfull : autoFlushLen <= (u.writer.buffer ++ buf).length) :
    u.write buf (.ok rx) = some { u with
      writer := { u.writer with
        buffer := []
        currentTransferLen := u.writer.currentTransferLen + buf.length
        pending := some rx
        endpoint := u.writer.endpoint ++ [u.writer.buffer ++ buf] }
      outstanding := some buf
      waits := u.waits ++ [some rx] } := by
  unfold write RusbAsyncWriter.pollWrite
  rw [hpending]
  simp only [List.isEmpty_iff, if_neg hbuf, if_pos hfull]
  rfl

theorem exists_bytes {n : Nat} (hn : 0 < n) :
    exists buf : List UInt8, buf.length = n ∧ buf ≠ [] := by
  refine ⟨List.replicate n 0, List.length_replicate, ?_⟩
  intro hnil
  have hlength := congrArg List.length hnil
  rw [List.length_replicate] at hlength
  exact Nat.ne_of_gt hn hlength

end WriterUse

end UsbBackend
end Rusbmux
