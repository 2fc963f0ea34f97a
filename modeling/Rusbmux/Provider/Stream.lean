import Rusbmux.Conn.Usb
import Rusbmux.Foundation.Machine
import Rusbmux.Poll

/-!
# The stream of the provider

`RusbmuxStream` of `provider.rs`, which gives one connection the interface of a
byte stream.  Every poll function is a loop over the two channels of the
connection; a call is described by what the channels answer in each round of
its loop, so a list of rounds that is too short or too long describes no call.
`poll_flush` does nothing and is left out.
-/

namespace Rusbmux

open Rusbmux.Parser

namespace Provider

structure ChannelAnswers where
  flag : SendAnswer := .full
  packet : SendAnswer := .full
  item : RecvAnswer := .pending
deriving DecidableEq, Repr

structure RusbmuxStream where
  conn : UsbDeviceConn
  readBuf : List UInt8 := []
  needAck : Bool := false
  lastWriteLen : Nat := 0
  readStream : List UsbDevicePacket := []
  writeSink : List UsbDevicePacket := []
  writePacket : Option UsbDevicePacket := none
deriving DecidableEq, Repr

inductive Round (alpha : Type) where
  | again
  | done (result : Poll (IoResult alpha))
deriving DecidableEq

def readyOk {sigma alpha beta : Type} (r : sigma × Poll (IoResult alpha))
    (next : sigma -> alpha -> sigma × Round beta) : sigma × Round beta :=
  match r with
  | (s, .ready (.ok value)) => next s value
  | (s, .ready (.error err)) => (s, .done (.ready (.error err)))
  | (s, .pending) => (s, .done .pending)

/-- A loop of rounds, one for each of the given answers. -/
def pollLoop {sigma alpha : Type}
    (round : sigma -> ChannelAnswers -> sigma × Round alpha) :
    sigma -> List ChannelAnswers -> Option (sigma × Poll (IoResult alpha))
  | _, [] => none
  | s, io :: rest =>
      match round s io with
      | (t, .again) => pollLoop round t rest
      | (t, .done result) => if rest.isEmpty then some (t, result) else none

namespace RusbmuxStream

def channelDisconnected : IoError where
  kind := .notConnected
  message := "Channel disconnected"

def pollSendFlag (s : RusbmuxStream) (tcpFlag : TcpFlags) :
    SendAnswer -> RusbmuxStream × Poll (IoResult Unit)
  | .sent =>
      ({ s with
          writeSink := s.writeSink ++ [s.conn.buildFlag tcpFlag]
          conn := s.conn.updateSendableBytes
          needAck := false },
        .ready (.ok ()))
  | .full => (s, .pending)
  | .disconnected => (s, .ready (.error channelDisconnected))

def pollRecv (s : RusbmuxStream) :
    RecvAnswer -> RusbmuxStream × Poll (IoResult Unit)
  | .item packet =>
      let payload := packet.payload.encode
      ({ s with
          readStream := s.readStream ++ [packet]
          conn := s.conn.updateStates packet
          readBuf := if s.readBuf.isEmpty then payload else s.readBuf ++ payload
          needAck := true },
        .ready (.ok ()))
  | .disconnected => (s, .ready (.error channelDisconnected))
  | .pending => (s, .pending)

def pollSendPending (s : RusbmuxStream) (packet : UsbDevicePacket) :
    SendAnswer -> RusbmuxStream × Poll (IoResult Nat)
  | .sent =>
      ({ s with
          writeSink := s.writeSink ++ [packet]
          conn := s.conn.packetSent packet
          lastWriteLen := 0 },
        .ready (.ok s.lastWriteLen))
  | .full => ({ s with writePacket := some packet }, .pending)
  | .disconnected => (s, .ready (.error channelDisconnected))

def pollReadRound (s : RusbmuxStream × ReadBuf) (io : ChannelAnswers) :
    (RusbmuxStream × ReadBuf) × Round Unit :=
  match s with
  | (s, buf) =>
      if s.needAck then
        match s.pollSendFlag .ack io.flag with
        | (s, result) => readyOk ((s, buf), result) fun s _ => (s, .again)
      else if !s.readBuf.isEmpty then
        let n := min s.readBuf.length buf.remaining
        let buf := buf.putSlice (s.readBuf.take n)
        let s := { s with readBuf := s.readBuf.drop n }
        if buf.remaining ≠ 0 && !s.readBuf.isEmpty then ((s, buf), .again)
        else ((s, buf), .done (.ready (.ok ())))
      else
        match s.pollRecv io.item with
        | (s, result) => readyOk ((s, buf), result) fun s _ => (s, .again)

def pollRead (s : RusbmuxStream) (buf : ReadBuf)
    (rounds : List ChannelAnswers) :
    Option ((RusbmuxStream × ReadBuf) × Poll (IoResult Unit)) :=
  pollLoop pollReadRound (s, buf) rounds

/-- The second half of a round of `poll_write`, after the ACK that was due. -/
def pollWritePacket (s : RusbmuxStream) (buf : List UInt8)
    (io : ChannelAnswers) : RusbmuxStream × Round Nat :=
  match s.writePacket with
  | some packet =>
      readyOk ({ s with writePacket := none }.pollSendPending packet io.packet)
        fun s n => (s, .done (.ready (.ok n)))
  | none =>
      let sendable := s.conn.sendableBytes
      if sendable = 0 then
        readyOk (s.pollRecv io.item) fun s _ => (s, .again)
      else
        let n := min buf.length sendable
        ({ s with
            lastWriteLen := n
            writePacket := some (s.conn.buildBytes (buf.take n)) },
          .again)

def pollWriteRound (buf : List UInt8) (s : RusbmuxStream)
    (io : ChannelAnswers) : RusbmuxStream × Round Nat :=
  if s.needAck then
    readyOk (s.pollSendFlag .ack io.flag) fun s _ => s.pollWritePacket buf io
  else
    s.pollWritePacket buf io

def pollWrite (s : RusbmuxStream) (buf : List UInt8)
    (rounds : List ChannelAnswers) :
    Option (RusbmuxStream × Poll (IoResult Nat)) :=
  if buf.isEmpty then some (s, .ready (.ok 0))
  else pollLoop (pollWriteRound buf) s rounds

def pollShutdown (s : RusbmuxStream) (flag : SendAnswer) :
    RusbmuxStream × Poll (IoResult Unit) :=
  if s.conn.dropped then (s, .ready (.ok ()))
  else
    match s.pollSendFlag .rst flag with
    | (s, .ready (.ok ())) =>
        ({ s with conn := s.conn.setDropped }, .ready (.ok ()))
    | (s, result) => (s, result)

end RusbmuxStream

/-!
## Using a stream
-/

/-- A stream with what the calls made on it have returned. -/
structure StreamUse where
  stream : RusbmuxStream
  /-- The buffers of the writes that returned a length, with that length. -/
  writes : List (List UInt8 × Nat) := []
  delivered : List UInt8 := []

namespace StreamUse

open Foundation

inductive Action where
  | pollRead (room : Nat) (rounds : List ChannelAnswers)
  | pollWrite (buf : List UInt8) (rounds : List ChannelAnswers)
  | pollShutdown (flag : SendAnswer)

def reported : Poll (IoResult Nat) -> Option Nat
  | .ready (.ok n) => some n
  | .ready (.error _) => none
  | .pending => none

def pollRead (u : StreamUse) (room : Nat) (rounds : List ChannelAnswers) :
    Option StreamUse := do
  let ((s, buf), _) <- u.stream.pollRead { remaining := room } rounds
  some { u with stream := s, delivered := u.delivered ++ buf.filled }

def pollWrite (u : StreamUse) (buf : List UInt8)
    (rounds : List ChannelAnswers) : Option StreamUse := do
  let (s, result) <- u.stream.pollWrite buf rounds
  some { u with
    stream := s
    writes := u.writes ++ ((reported result).map fun n => (buf, n)).toList }

def step : Machine StreamUse Action := fun u a =>
  match a with
  | .pollRead room rounds => u.pollRead room rounds
  | .pollWrite buf rounds => u.pollWrite buf rounds
  | .pollShutdown flag =>
      some { u with stream := (u.stream.pollShutdown flag).fst }

def init (conn : UsbDeviceConn) : StreamUse where
  stream := { conn := conn }

end StreamUse

end Provider
end Rusbmux
