import Rusbmux.Conn.Usb
import Rusbmux.Error
import Rusbmux.Foundation.Transcript

/-!
# Opening a connection to a USB device

`TcpHandshake::perform`, and the connection that `UsbDeviceConn::new` makes of
its result.  What the two channels answer is given in advance; a send waits
until there is room, so it either puts its packet on the channel or finds the
channel disconnected.
-/

namespace Rusbmux

open Foundation
open Rusbmux.Parser

structure TcpHandshake where
  sentBytes : UInt32
  receivedBytes : UInt32
  deviceWindowSize : UInt16
  deviceReceivedBytes : UInt32
deriving DecidableEq, Repr

/-- The answers of the channels during a handshake. -/
structure HandshakeAnswers where
  syn : Bool := true
  synAck : Option UsbDevicePacket
  ack : Bool := true

namespace TcpHandshake

def send (taken : Bool) (packet : UsbDevicePacket) :
    Transcript UsbDevicePacket RusbmuxError Unit :=
  if taken then Transcript.send packet
  else Transcript.fail (.channel .usbSend)

def checkSynAck (tcpSynAck : UsbDevicePacket) :
    Except RusbmuxError TcpHeader :=
  match tcpSynAck.tcpHdr with
  | none =>
      .error (.unexpectedPacket "Expected a packet with a tcp header")
  | some tcpHdr =>
      if tcpHdr.syn && tcpHdr.ack then .ok tcpHdr
      else
        .error (.io
          { kind := .connectionRefused, message := "Got a non SYN-ACK" })

def buildFlag (sourcePort destinationPort : UInt16)
    (sentBytes receivedBytes : UInt32) (tcpFlag : TcpFlags) :
    UsbDevicePacket :=
  UsbDevicePacket.builder
    |>.headerTcp UsbDeviceConn.autoSeq UsbDeviceConn.autoSeq
    |>.tcpHeader sourcePort destinationPort sentBytes receivedBytes tcpFlag
    |>.build

def perform (sourcePort destinationPort : UInt16)
    (answers : HandshakeAnswers) :
    Transcript UsbDevicePacket RusbmuxError TcpHandshake := do
  send answers.syn (buildFlag sourcePort destinationPort 0 0 .syn)
  let tcpSynAck <- Transcript.lift
    (answers.synAck.elim (.error (.channel .usbRecv)) .ok)
  let tcpSynAckTcpHdr <- Transcript.lift (checkSynAck tcpSynAck)
  let sentBytes := 0 + tcpSynAckTcpHdr.acknowledgmentNumber
  let receivedBytes := 0 + 1
  send answers.ack
    (buildFlag sourcePort destinationPort sentBytes receivedBytes .ack)
  pure
    { sentBytes := sentBytes
      receivedBytes := receivedBytes
      deviceWindowSize := tcpSynAckTcpHdr.windowSize
      deviceReceivedBytes := tcpSynAckTcpHdr.acknowledgmentNumber }

def ofSynAck (tcpHdr : TcpHeader) : TcpHandshake where
  sentBytes := tcpHdr.acknowledgmentNumber
  receivedBytes := 1
  deviceWindowSize := tcpHdr.windowSize
  deviceReceivedBytes := tcpHdr.acknowledgmentNumber

theorem checkSynAck_eq_ok {tcpSynAck : UsbDevicePacket} {tcpHdr : TcpHeader}
    (h : checkSynAck tcpSynAck = .ok tcpHdr) :
    tcpSynAck.tcpHdr = some tcpHdr := by
  unfold checkSynAck at h
  split at h
  · cases h
  · rename_i hdr hsome
    split at h
    · cases h
      exact hsome
    · cases h

theorem perform_eq_ok {sourcePort destinationPort : UInt16}
    {answers : HandshakeAnswers} {handshake : TcpHandshake}
    (h : (perform sourcePort destinationPort answers).result =
      .ok handshake) :
    exists tcpSynAck tcpHdr, answers.synAck = some tcpSynAck ∧
      tcpSynAck.tcpHdr = some tcpHdr ∧ handshake = ofSynAck tcpHdr := by
  rcases Transcript.result_bind_eq_ok h with ⟨_, _, hsyn⟩
  rcases Transcript.result_bind_eq_ok hsyn with ⟨tcpSynAck, hrecv, hreceived⟩
  rcases Transcript.result_bind_eq_ok hreceived with ⟨tcpHdr, hcheck, hack⟩
  rcases Transcript.result_bind_eq_ok hack with ⟨_, _, hdone⟩
  cases hdone
  refine ⟨tcpSynAck, tcpHdr, ?_, checkSynAck_eq_ok hcheck, ?_⟩
  · cases hanswer : answers.synAck with
    | none =>
        rw [hanswer] at hrecv
        cases hrecv
    | some packet =>
        rw [hanswer] at hrecv
        cases hrecv
        rfl
  · unfold ofSynAck
    rw [UInt32.zero_add]
    rfl

end TcpHandshake

def UsbDeviceConn.ofHandshake (sourcePort destinationPort : UInt16)
    (handshake : TcpHandshake) : UsbDeviceConn :=
  .newFrom destinationPort sourcePort handshake.sentBytes
    handshake.receivedBytes handshake.deviceWindowSize
    handshake.deviceReceivedBytes

end Rusbmux
