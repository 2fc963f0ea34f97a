import Rusbmux.Conn.Usb
import Rusbmux.Error
import Rusbmux.Foundation.Machine

/-!
# Relaying between a client and a USB device

The loop of `handle_usb_device_connect` as a machine.  Each round of the loop
selects between three futures, which are polled in any order until one of them
completes; the other two are then dropped where they stand.  Only `recv` can be
left at an await point with something done: it has taken a packet off its
channel and waits for room to send the ACK.  Everything outside of the loop (the
channels, the client's socket, the token of the device) answers with the action.
-/

namespace Rusbmux
namespace Handler

open Foundation
open Rusbmux.Parser

inductive RecvFuture where
  /-- At `rx.recv().await`. -/
  | waiting
  /-- At `tx.send(tcp_ack).await`, holding the packet it is going to return. -/
  | acking (response tcpAck : UsbDevicePacket)
deriving DecidableEq, Repr

inductive Phase where
  /-- In `select!`; the sendable bytes are those at its beginning. -/
  | selecting (recv : RecvFuture) (sendable : Nat)
  /-- In `client_send`, with the part of the payload still to be written. -/
  | forwarding (rest : List UInt8)
  /-- In `send_bytes`. -/
  | uploading (packet : UsbDevicePacket)
  /-- In `close`. -/
  | closing (rstPacket : UsbDevicePacket)
  | returned (result : Except RusbmuxError Unit)

structure Relay where
  conn : UsbDeviceConn
  readBuf : List UInt8 := []
  phase : Phase
  received : List UsbDevicePacket := []
  written : List UInt8 := []
  clientRead : List UInt8 := []
  /-- The payloads passed to `send_bytes` so far. -/
  uploads : List (List UInt8) := []
  sent : List UsbDevicePacket := []
  failed : Bool := false

namespace Relay

inductive Action where
  /-- The token of the device is cancelled and `wait_shutdown` completes. -/
  | shutdown
  /-- `recv` is polled while it waits for a packet. -/
  | recvPacket (packet : UsbDevicePacket) (ack : SendAnswer)
  | recvDisconnected
  /-- `recv` is polled while it waits for room. -/
  | recvAck (ack : SendAnswer)
  /-- `client_read` completes; the answer counts when the socket is read. -/
  | clientRead (answer : Except IoError (List UInt8))
  | clientWrite (answer : Except IoError Nat)
  | sendBytes (answer : SendAnswer)
  | sendRst (answer : SendAnswer)

def select (s : Relay) : Relay :=
  { s with phase := .selecting .waiting s.conn.sendableBytes }

def leave (s : Relay) (result : Except RusbmuxError Unit) : Relay :=
  { s with phase := .returned result }

def fail (s : Relay) (err : RusbmuxError) : Relay :=
  { s.leave (.error err) with failed := true }

/-- The beginning of `client_send`; an empty payload is written at once. -/
def clientSend (s : Relay) (payload : List UInt8) : Relay :=
  if payload.isEmpty then s.select else { s with phase := .forwarding payload }

def shutdown (s : Relay) : Option Relay :=
  match s.phase with
  | .selecting _ _ => some (s.leave (.ok ()))
  | _ => none

def ack (s : Relay) (response tcpAck : UsbDevicePacket) (sendable : Nat) :
    SendAnswer -> Relay
  | .sent =>
      { s with
        sent := s.sent ++ [tcpAck]
        conn := s.conn.updateSendableBytes }.clientSend response.payload.encode
  | .full => { s with phase := .selecting (.acking response tcpAck) sendable }
  | .disconnected => s.fail (.channel .usbSend)

def recvPacket (s : Relay) (packet : UsbDevicePacket) (answer : SendAnswer) :
    Option Relay :=
  match s.phase with
  | .selecting .waiting sendable =>
      let s := { s with
        received := s.received ++ [packet]
        conn := s.conn.updateStates packet }
      some (s.ack packet (s.conn.buildFlag .ack) sendable answer)
  | _ => none

def recvDisconnected (s : Relay) : Option Relay :=
  match s.phase with
  | .selecting .waiting _ => some (s.leave (.error (.channel .usbRecv)))
  | _ => none

def recvAck (s : Relay) (answer : SendAnswer) : Option Relay :=
  match s.phase with
  | .selecting (.acking response tcpAck) sendable =>
      some (s.ack response tcpAck sendable answer)
  | _ => none

/-- The end of `client_read`, and what the loop does with its result. -/
def clientPacket (s : Relay) (sendable : Nat) : Relay :=
  let clientPacket := s.readBuf.take (min sendable s.readBuf.length)
  let s := { s with
    readBuf := s.readBuf.drop (min sendable s.readBuf.length) }
  if clientPacket.isEmpty then
    { s with phase := .closing (s.conn.buildFlag .rst) }
  else
    { s with
      uploads := s.uploads ++ [clientPacket]
      phase := .uploading (s.conn.buildBytes clientPacket) }

def readClient (s : Relay) (answer : Except IoError (List UInt8)) :
    Option Relay :=
  match s.phase with
  | .selecting _ sendable =>
      if sendable = 0 then none
      else if !s.readBuf.isEmpty then some (s.clientPacket sendable)
      else
        match answer with
        | .error err => some (s.leave (.error (.io err)))
        | .ok chunk =>
            some ({ s with
              readBuf := chunk
              clientRead := s.clientRead ++ chunk }.clientPacket sendable)
  | _ => none

def writeClient (s : Relay) (answer : Except IoError Nat) : Option Relay :=
  match s.phase with
  | .forwarding rest =>
      match answer with
      | .error err => some (s.fail (.io err))
      | .ok n =>
          if 0 < n ∧ n <= rest.length then
            some ({ s with written := s.written ++ rest.take n }.clientSend
              (rest.drop n))
          else
            none
  | _ => none

def sendBytes (s : Relay) (answer : SendAnswer) : Option Relay :=
  match s.phase with
  | .uploading packet =>
      match answer with
      | .sent =>
          some { s with
            sent := s.sent ++ [packet]
            conn := s.conn.packetSent packet }.select
      | .full => some s
      | .disconnected => some (s.fail (.channel .usbSend))
  | _ => none

def sendRst (s : Relay) (answer : SendAnswer) : Option Relay :=
  match s.phase with
  | .closing rstPacket =>
      match answer with
      | .sent =>
          some ({ s with
            sent := s.sent ++ [rstPacket]
            conn := s.conn.setDropped }.leave (.ok ()))
      | .full => some s
      | .disconnected => some (s.fail (.channel .usbSend))
  | _ => none

def step : Machine Relay Action := fun s a =>
  match a with
  | .shutdown => s.shutdown
  | .recvPacket packet answer => s.recvPacket packet answer
  | .recvDisconnected => s.recvDisconnected
  | .recvAck answer => s.recvAck answer
  | .clientRead answer => s.readClient answer
  | .clientWrite answer => s.writeClient answer
  | .sendBytes answer => s.sendBytes answer
  | .sendRst answer => s.sendRst answer

def init (conn : UsbDeviceConn) : Relay where
  conn := conn
  phase := .selecting .waiting conn.sendableBytes

/-!
## What the operations can do
-/

variable {s t : Relay}

theorem shutdown_eq_some (hstep : s.shutdown = some t) :
    exists recv sendable, s.phase = .selecting recv sendable ∧
      t = s.leave (.ok ()) := by
  unfold shutdown at hstep
  split at hstep
  · rename_i recv sendable hphase
    exact ⟨recv, sendable, hphase, (Option.some.inj hstep).symm⟩
  · cases hstep

theorem recvPacket_eq_some {packet : UsbDevicePacket}
    {answer : SendAnswer} (hstep : s.recvPacket packet answer = some t) :
    exists sendable, s.phase = .selecting .waiting sendable ∧
      t = { s with
        received := s.received ++ [packet]
        conn := s.conn.updateStates packet }.ack packet
          ((s.conn.updateStates packet).buildFlag .ack) sendable answer := by
  unfold recvPacket at hstep
  split at hstep
  · rename_i sendable hphase
    exact ⟨sendable, hphase, (Option.some.inj hstep).symm⟩
  · cases hstep

theorem recvDisconnected_eq_some (hstep : s.recvDisconnected = some t) :
    exists sendable, s.phase = .selecting .waiting sendable ∧
      t = s.leave (.error (.channel .usbRecv)) := by
  unfold recvDisconnected at hstep
  split at hstep
  · rename_i sendable hphase
    exact ⟨sendable, hphase, (Option.some.inj hstep).symm⟩
  · cases hstep

theorem recvAck_eq_some {answer : SendAnswer}
    (hstep : s.recvAck answer = some t) :
    exists response tcpAck sendable,
      s.phase = .selecting (.acking response tcpAck) sendable ∧
        t = s.ack response tcpAck sendable answer := by
  unfold recvAck at hstep
  split at hstep
  · rename_i response tcpAck sendable hphase
    exact ⟨response, tcpAck, sendable, hphase, (Option.some.inj hstep).symm⟩
  · cases hstep

theorem readClient_cases {answer : Except IoError (List UInt8)}
    (hstep : s.readClient answer = some t) :
    exists recv sendable, s.phase = .selecting recv sendable ∧ 0 < sendable ∧
      ((s.readBuf ≠ [] ∧ t = s.clientPacket sendable) ∨
        (exists err, answer = .error err ∧
          t = s.leave (.error (.io err))) ∨
        (exists chunk, s.readBuf = [] ∧ answer = .ok chunk ∧
          t = { s with
            readBuf := chunk
            clientRead := s.clientRead ++ chunk }.clientPacket sendable)) := by
  unfold readClient at hstep
  split at hstep
  · rename_i recv sendable hphase
    rcases Machine.of_disabled_if hstep with ⟨hsendable, hanswer⟩
    refine ⟨recv, sendable, hphase, Nat.pos_of_ne_zero hsendable, ?_⟩
    split at hanswer
    · rename_i hbuf
      cases hanswer
      left
      constructor
      · intro hempty
        rw [hempty] at hbuf
        cases hbuf
      · rfl
    · rename_i hbuf
      have hempty : s.readBuf = [] := by simpa using hbuf
      cases answer with
      | error err =>
          cases hanswer
          exact Or.inr (Or.inl ⟨err, rfl, rfl⟩)
      | ok chunk =>
          cases hanswer
          exact Or.inr (Or.inr ⟨chunk, hempty, rfl, rfl⟩)
  · cases hstep

theorem writeClient_cases {answer : Except IoError Nat}
    (hstep : s.writeClient answer = some t) :
    exists rest, s.phase = .forwarding rest ∧
      ((exists err, answer = .error err ∧ t = s.fail (.io err)) ∨
        exists n, answer = .ok n ∧ (0 < n ∧ n <= rest.length) ∧
          t = { s with written := s.written ++ rest.take n }.clientSend
            (rest.drop n)) := by
  unfold writeClient at hstep
  split at hstep
  · rename_i rest hphase
    refine ⟨rest, hphase, ?_⟩
    cases answer with
    | error err =>
        cases hstep
        exact Or.inl ⟨err, rfl, rfl⟩
    | ok n =>
        rcases Machine.of_enabled_if hstep with ⟨hbound, hsent⟩
        cases hsent
        exact Or.inr ⟨n, rfl, hbound, rfl⟩
  · cases hstep

theorem sendBytes_cases {answer : SendAnswer}
    (hstep : s.sendBytes answer = some t) :
    exists packet, s.phase = .uploading packet ∧
      ((answer = .sent ∧ t = { s with
          sent := s.sent ++ [packet]
          conn := s.conn.packetSent packet }.select) ∨
        (answer = .full ∧ t = s) ∨
        (answer = .disconnected ∧ t = s.fail (.channel .usbSend))) := by
  unfold sendBytes at hstep
  split at hstep
  · rename_i packet hphase
    refine ⟨packet, hphase, ?_⟩
    cases answer with
    | sent =>
        cases hstep
        exact Or.inl ⟨rfl, rfl⟩
    | full =>
        cases hstep
        exact Or.inr (Or.inl ⟨rfl, rfl⟩)
    | disconnected =>
        cases hstep
        exact Or.inr (Or.inr ⟨rfl, rfl⟩)
  · cases hstep

theorem sendRst_cases {answer : SendAnswer}
    (hstep : s.sendRst answer = some t) :
    exists rstPacket, s.phase = .closing rstPacket ∧
      ((answer = .sent ∧ t = { s with
          sent := s.sent ++ [rstPacket]
          conn := s.conn.setDropped }.leave (.ok ())) ∨
        (answer = .full ∧ t = s) ∨
        (answer = .disconnected ∧ t = s.fail (.channel .usbSend))) := by
  unfold sendRst at hstep
  split at hstep
  · rename_i rstPacket hphase
    refine ⟨rstPacket, hphase, ?_⟩
    cases answer with
    | sent =>
        cases hstep
        exact Or.inl ⟨rfl, rfl⟩
    | full =>
        cases hstep
        exact Or.inr (Or.inl ⟨rfl, rfl⟩)
    | disconnected =>
        cases hstep
        exact Or.inr (Or.inr ⟨rfl, rfl⟩)
  · cases hstep

end Relay

end Handler
end Rusbmux
