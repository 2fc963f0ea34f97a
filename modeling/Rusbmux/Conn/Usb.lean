import Rusbmux.Parser.DeviceMuxBuilder

/-!
# Connections to a USB device

The state a connection keeps between its packets, and the operations of
`conn/usb.rs` that read and write it.  The operations that wait for a channel
belong to the tasks that use the connection; what they do between two waits is
here.
-/

namespace Rusbmux

open Rusbmux.Parser

inductive SendAnswer where
  | sent
  | full
  | disconnected
deriving DecidableEq, Repr

inductive RecvAnswer where
  | item (packet : UsbDevicePacket)
  | disconnected
  | pending
deriving DecidableEq, Repr

structure UsbDeviceConn where
  sentBytes : UInt32
  receivedBytes : UInt32
  sourcePort : UInt16
  destinationPort : UInt16
  sendableBytes : Nat
  deviceLastWindowSize : UInt16
  deviceLastReceivedBytes : UInt32
  dropped : Bool := false
deriving DecidableEq, Repr

def maxPacketSize : Nat := 48 * 1024

def maxPacketPayloadSize : Nat :=
  maxPacketSize - (UsbDevicePacketHeaderV2.size + TcpHeader.minLen)

namespace UsbDeviceConn

/-- The place holder for the numbers that the writer loop fills in. -/
def autoSeq : UInt16 := 0

def calcSendableBytes (sentBytes : UInt32) (deviceWindowSize : UInt16)
    (deviceReceivedBytes : UInt32) : Nat :=
  let deviceWindowSize := deviceWindowSize.toUInt32 <<< 8
  let unackedBytes := sentBytes - deviceReceivedBytes
  if deviceWindowSize > unackedBytes then
    min (deviceWindowSize - unackedBytes).toNat maxPacketPayloadSize
  else
    0

def newFrom (destinationPort sourcePort : UInt16)
    (sentBytes receivedBytes : UInt32) (deviceLastWindowSize : UInt16)
    (deviceLastReceivedBytes : UInt32) : UsbDeviceConn where
  sentBytes := sentBytes
  receivedBytes := receivedBytes
  sourcePort := sourcePort
  destinationPort := destinationPort
  sendableBytes :=
    calcSendableBytes sentBytes deviceLastWindowSize deviceLastReceivedBytes
  deviceLastWindowSize := deviceLastWindowSize
  deviceLastReceivedBytes := deviceLastReceivedBytes

def opened (destinationPort sourcePort : UInt16) : UsbDeviceConn :=
  newFrom destinationPort sourcePort 1 1 windowSize 1

def addSentBytes (conn : UsbDeviceConn) (value : UInt32) : UsbDeviceConn :=
  { conn with sentBytes := conn.sentBytes + value }

def setDropped (conn : UsbDeviceConn) : UsbDeviceConn :=
  { conn with dropped := true }

def updateStates (conn : UsbDeviceConn) (packet : UsbDevicePacket) :
    UsbDeviceConn :=
  match packet.tcpHdr with
  | none => conn
  | some tcpHdr =>
      { conn with
        receivedBytes := tcpHdr.sequenceNumber + .ofNat packet.payload.len
        deviceLastReceivedBytes := tcpHdr.acknowledgmentNumber
        deviceLastWindowSize := tcpHdr.windowSize }

def updateSendableBytes (conn : UsbDeviceConn) : UsbDeviceConn :=
  { conn with
    sendableBytes := calcSendableBytes conn.sentBytes conn.deviceLastWindowSize
      conn.deviceLastReceivedBytes }

def buildFlag (conn : UsbDeviceConn) (tcpFlag : TcpFlags) : UsbDevicePacket :=
  UsbDevicePacket.builder
    |>.headerTcp autoSeq autoSeq
    |>.tcpHeader conn.sourcePort conn.destinationPort conn.sentBytes
      conn.receivedBytes tcpFlag
    |>.build

def buildBytes (conn : UsbDeviceConn) (value : List UInt8) : UsbDevicePacket :=
  UsbDevicePacket.builder
    |>.headerTcp autoSeq autoSeq
    |>.tcpHeader conn.sourcePort conn.destinationPort conn.sentBytes
      conn.receivedBytes .ack
    |>.payloadBytes value
    |>.buildBytes

def packetSent (conn : UsbDeviceConn) (packet : UsbDevicePacket) :
    UsbDeviceConn :=
  (conn.addSentBytes (.ofNat packet.payload.len)).updateSendableBytes

/-- The bytes received once a packet has been dequeued. -/
def receivedAfter (received : UInt32) (packet : UsbDevicePacket) : UInt32 :=
  match packet.tcpHdr with
  | none => received
  | some tcpHdr => tcpHdr.sequenceNumber + .ofNat packet.payload.len

theorem updateStates_receivedBytes (conn : UsbDeviceConn)
    (packet : UsbDevicePacket) :
    (conn.updateStates packet).receivedBytes =
      receivedAfter conn.receivedBytes packet := by
  unfold updateStates receivedAfter
  cases packet.tcpHdr with
  | none => rfl
  | some tcpHdr => rfl

theorem buildBytes_payload (conn : UsbDeviceConn) (value : List UInt8) :
    (conn.buildBytes value).payload.encode = value := rfl

theorem calcSendableBytes_le (sentBytes : UInt32) (deviceWindowSize : UInt16)
    (deviceReceivedBytes : UInt32) :
    calcSendableBytes sentBytes deviceWindowSize deviceReceivedBytes <=
      maxPacketPayloadSize := by
  unfold calcSendableBytes
  simp only
  split
  · exact Nat.min_le_right _ _
  · exact Nat.zero_le _

end UsbDeviceConn
end Rusbmux
