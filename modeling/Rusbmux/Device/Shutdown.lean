import Mathlib.Data.List.Perm.Subperm
import Rusbmux.Conn.Usb
import Rusbmux.Error
import Rusbmux.Foundation.Machine

/-!
# Shutting a USB device down

`UsbDevice::shutdown` runs next to the writer task of the device.  The call
cancels the token of the device, puts an RST on the writer channel for every
open connection, and aborts the loops.  The task selects between the writer loop
and the token: each poll of the task polls the two in either order, and the task
ends, with everything it still holds, as soon as the token is seen.  The packets
of all other tasks may be put on the channel at any time.
-/

namespace Rusbmux
namespace Device

open Foundation
open Rusbmux.Parser

structure QueuedPacket where
  packet : UsbDevicePacket
  /-- It was put there by `close_all`. -/
  fromCloseAll : Bool
deriving DecidableEq, Repr

inductive ShutdownCall where
  | started
  | cancelled
  /-- In `close_all`, with the connections to come and the first error. -/
  | closing (rest : List UsbDeviceConn) (firstErr : Option RusbmuxError)
  | closed
  | returned (result : Except RusbmuxError Unit)

inductive WriterTask where
  | parked
  | inLoop (tokenPolled : Bool)
  | atToken
  | ended
deriving DecidableEq, Repr

structure Shutdown where
  conns : List UsbDeviceConn
  call : ShutdownCall := .started
  cancelled : Bool := false
  dropped : Bool := false
  aborted : Bool := false
  writer : WriterTask := .parked
  writing : Option QueuedPacket := none
  channel : List QueuedPacket := []
  enqueued : List QueuedPacket := []
  handed : List QueuedPacket := []

namespace Shutdown

def channelSize : Nat := 256

inductive WriterAction where
  | pollLoopFirst
  | pollTokenFirst
  | takePacket
  | packetWritten
  | loopPending
  | pollToken
  | abort

inductive Action where
  | cancel
  | takeAllConns (conns : List UsbDeviceConn)
  /-- `send_rst` of the next connection, whose counters are read now. -/
  | sendRst (sentBytes receivedBytes : UInt32)
  | closeAllReturns
  | dropLoops
  | send (packet : UsbDevicePacket)
  | writer (a : WriterAction)

/-!
## The call
-/

def enqueue (s : Shutdown) (queued : QueuedPacket) : Option Shutdown :=
  if s.writer ≠ .ended ∧ s.channel.length < channelSize then
    some { s with
      channel := s.channel ++ [queued]
      enqueued := s.enqueued ++ [queued] }
  else
    none

def cancel (s : Shutdown) : Option Shutdown :=
  match s.call with
  | .started => some { s with call := .cancelled, cancelled := true }
  | _ => none

def takeAllConns (s : Shutdown) (conns : List UsbDeviceConn) :
    Option Shutdown :=
  match s.call with
  | .cancelled =>
      if conns.Subperm s.conns then
        some { s with call := .closing conns none }
      else
        none
  | _ => none

/-- A send to a task that has ended fails, and `close_all` goes on. -/
def sendRst (s : Shutdown) (sentBytes receivedBytes : UInt32) :
    Option Shutdown :=
  match s.call with
  | .closing (conn :: rest) firstErr =>
      if s.writer = .ended then
        some { s with
          call := .closing rest (firstErr <|> some (.channel .usbSend)) }
      else
        let conn := { conn with
          sentBytes := sentBytes
          receivedBytes := receivedBytes }
        { s with call := .closing rest firstErr }.enqueue
          { packet := conn.buildFlag .rst, fromCloseAll := true }
  | _ => none

/-- An error of `close_all` ends the call before the loops are aborted. -/
def closeAllReturns (s : Shutdown) : Option Shutdown :=
  match s.call with
  | .closing [] (some err) => some { s with call := .returned (.error err) }
  | .closing [] none => some { s with call := .closed, dropped := true }
  | _ => none

def dropLoops (s : Shutdown) : Option Shutdown :=
  match s.call with
  | .closed => some { s with call := .returned (.ok ()), aborted := true }
  | _ => none

/-!
## The writer task
-/

def endTask (s : Shutdown) : Shutdown :=
  { s with writer := .ended, writing := none, channel := [] }

def pollLoopFirst (s : Shutdown) : Option Shutdown :=
  if s.writer = .parked ∧ s.aborted = false then
    some { s with writer := .inLoop false }
  else
    none

def pollTokenFirst (s : Shutdown) : Option Shutdown :=
  if s.writer = .parked ∧ s.aborted = false then
    if s.cancelled then some s.endTask
    else some { s with writer := .inLoop true }
  else
    none

def takePacket (s : Shutdown) : Option Shutdown :=
  match s.writer, s.writing, s.channel with
  | .inLoop _, none, queued :: rest =>
      some { s with writing := some queued, channel := rest }
  | _, _, _ => none

def packetWritten (s : Shutdown) : Option Shutdown :=
  match s.writer, s.writing with
  | .inLoop _, some queued =>
      some { s with writing := none, handed := s.handed ++ [queued] }
  | _, _ => none

def loopPending (s : Shutdown) : Option Shutdown :=
  match s.writer with
  | .inLoop tokenPolled =>
      if s.writing.isSome || s.channel.isEmpty then
        some { s with writer := if tokenPolled then .parked else .atToken }
      else
        none
  | _ => none

def pollToken (s : Shutdown) : Option Shutdown :=
  if s.writer = .atToken then
    if s.cancelled then some s.endTask else some { s with writer := .parked }
  else
    none

def abort (s : Shutdown) : Option Shutdown :=
  if s.writer = .parked ∧ s.aborted = true then some s.endTask else none

def writerStep : Machine Shutdown WriterAction := fun s a =>
  match a with
  | .pollLoopFirst => s.pollLoopFirst
  | .pollTokenFirst => s.pollTokenFirst
  | .takePacket => s.takePacket
  | .packetWritten => s.packetWritten
  | .loopPending => s.loopPending
  | .pollToken => s.pollToken
  | .abort => s.abort

def step : Machine Shutdown Action := fun s a =>
  match a with
  | .cancel => s.cancel
  | .takeAllConns conns => s.takeAllConns conns
  | .sendRst sentBytes receivedBytes => s.sendRst sentBytes receivedBytes
  | .closeAllReturns => s.closeAllReturns
  | .dropLoops => s.dropLoops
  | .send packet => s.enqueue { packet := packet, fromCloseAll := false }
  | .writer a => s.writerStep a

/-!
## What the operations can do
-/

variable {s t : Shutdown}

theorem cancel_eq_some (hstep : s.cancel = some t) :
    t = { s with call := .cancelled, cancelled := true } := by
  unfold cancel at hstep
  split at hstep
  · exact (Option.some.inj hstep).symm
  · cases hstep

theorem takeAllConns_eq_some {conns : List UsbDeviceConn}
    (hstep : s.takeAllConns conns = some t) :
    conns.Subperm s.conns ∧ t = { s with call := .closing conns none } := by
  unfold takeAllConns at hstep
  split at hstep
  · rcases Machine.of_enabled_if hstep with ⟨hconns, hsome⟩
    exact ⟨hconns, (Option.some.inj hsome).symm⟩
  · cases hstep

theorem enqueue_eq_some {queued : QueuedPacket}
    (hstep : s.enqueue queued = some t) :
    s.writer ≠ .ended ∧
      t = { s with
        channel := s.channel ++ [queued]
        enqueued := s.enqueued ++ [queued] } := by
  rcases Machine.of_enabled_if hstep with ⟨⟨hwriter, _⟩, hsome⟩
  exact ⟨hwriter, (Option.some.inj hsome).symm⟩

theorem sendRst_cases {sentBytes receivedBytes : UInt32}
    (hstep : s.sendRst sentBytes receivedBytes = some t) :
    exists conn rest firstErr, s.call = .closing (conn :: rest) firstErr ∧
      (t = { s with
          call := .closing rest (firstErr <|> some (.channel .usbSend)) } ∨
        exists queued,
          { s with call := .closing rest firstErr }.enqueue queued =
            some t) := by
  unfold sendRst at hstep
  split at hstep
  · rename_i conn rest firstErr hcall
    refine ⟨conn, rest, firstErr, hcall, ?_⟩
    split at hstep
    · exact Or.inl (Option.some.inj hstep).symm
    · exact Or.inr ⟨_, hstep⟩
  · cases hstep

theorem closeAllReturns_cases (hstep : s.closeAllReturns = some t) :
    (exists err, t = { s with call := .returned (.error err) }) ∨
      t = { s with call := .closed, dropped := true } := by
  unfold closeAllReturns at hstep
  split at hstep
  · rename_i err hcall
    exact Or.inl ⟨err, (Option.some.inj hstep).symm⟩
  · exact Or.inr (Option.some.inj hstep).symm
  · cases hstep

theorem dropLoops_eq_some (hstep : s.dropLoops = some t) :
    t = { s with call := .returned (.ok ()), aborted := true } := by
  unfold dropLoops at hstep
  split at hstep
  · exact (Option.some.inj hstep).symm
  · cases hstep

theorem takePacket_eq_some (hstep : s.takePacket = some t) :
    exists tokenPolled queued rest, s.writer = .inLoop tokenPolled ∧
      s.writing = none ∧ s.channel = queued :: rest ∧
        t = { s with writing := some queued, channel := rest } := by
  unfold takePacket at hstep
  split at hstep
  · rename_i tokenPolled queued rest hwriter hwriting hchannel
    exact ⟨tokenPolled, queued, rest, hwriter, hwriting, hchannel,
      (Option.some.inj hstep).symm⟩
  · cases hstep

theorem packetWritten_eq_some (hstep : s.packetWritten = some t) :
    exists tokenPolled queued, s.writer = .inLoop tokenPolled ∧
      s.writing = some queued ∧
        t = { s with writing := none, handed := s.handed ++ [queued] } := by
  unfold packetWritten at hstep
  split at hstep
  · rename_i tokenPolled queued hwriter hwriting
    exact ⟨tokenPolled, queued, hwriter, hwriting,
      (Option.some.inj hstep).symm⟩
  · cases hstep

theorem loopPending_eq_some (hstep : s.loopPending = some t) :
    exists tokenPolled, s.writer = .inLoop tokenPolled ∧
      t = { s with writer := if tokenPolled then .parked else .atToken } := by
  unfold loopPending at hstep
  split at hstep
  · rename_i tokenPolled hwriter
    have hsome := (Machine.of_enabled_if hstep).right
    exact ⟨tokenPolled, hwriter, (Option.some.inj hsome).symm⟩
  · cases hstep

end Shutdown

end Device
end Rusbmux
