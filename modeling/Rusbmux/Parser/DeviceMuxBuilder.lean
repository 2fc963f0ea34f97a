import Rusbmux.Parser.DeviceMux
import Rusbmux.Plist.Value

/-!
# Building device mux packets

The builder of `parser/device_mux/builder.rs`.  The missing parts of an
unfinished packet have the unit type, and each combination of parts that makes a
packet has a `build` of its own.
-/

namespace Rusbmux

def UsbDeviceConn.windowSize : UInt16 :=
  .ofNat ((128 * 1024) >>> 8)

namespace Parser

open Foundation

structure TcpFlags where
  bits : UInt8
deriving DecidableEq, Repr

namespace TcpFlags

def ack : TcpFlags := ⟨(1 : UInt8) <<< 0⟩
def syn : TcpFlags := ⟨(1 : UInt8) <<< 1⟩
def rst : TcpFlags := ⟨(1 : UInt8) <<< 2⟩

def contains (flags other : TcpFlags) : Bool :=
  flags.bits &&& other.bits = other.bits

end TcpFlags

structure UsbDevicePacketBuilder (P H TH : Type) where
  payload : P
  header : H
  tcpHdr : TH

def UsbDevicePacket.builder : UsbDevicePacketBuilder Unit Unit Unit where
  payload := ()
  header := ()
  tcpHdr := ()

namespace UsbDevicePacketBuilder

variable {P H TH : Type}

def payloadBytes (b : UsbDevicePacketBuilder Unit H TH) (value : List UInt8) :
    UsbDevicePacketBuilder (List UInt8) H TH where
  payload := value
  header := b.header
  tcpHdr := b.tcpHdr

def payloadVersion (b : UsbDevicePacketBuilder Unit H TH)
    (major minor : UInt32) :
    UsbDevicePacketBuilder UsbDevicePacketVersion H TH where
  payload := .new major minor 0
  header := b.header
  tcpHdr := b.tcpHdr

def payloadPlist (b : UsbDevicePacketBuilder Unit H TH) (value : Plist.Value) :
    UsbDevicePacketBuilder Plist.Value H TH where
  payload := value
  header := b.header
  tcpHdr := b.tcpHdr

def headerVersion (b : UsbDevicePacketBuilder P Unit TH) :
    UsbDevicePacketBuilder P Unit TH where
  payload := b.payload
  header := ()
  tcpHdr := b.tcpHdr

def headerSetup (b : UsbDevicePacketBuilder P Unit TH) :
    UsbDevicePacketBuilder P (UInt16 × UInt16) TH where
  payload := b.payload
  header := (0, 0xffff)
  tcpHdr := b.tcpHdr

def headerTcp (b : UsbDevicePacketBuilder P Unit TH)
    (sendSeq recvSeq : UInt16) :
    UsbDevicePacketBuilder P (UInt16 × UInt16) TH where
  payload := b.payload
  header := (sendSeq, recvSeq)
  tcpHdr := b.tcpHdr

def tcpHeader (b : UsbDevicePacketBuilder P H Unit)
    (sourcePort destinationPort : UInt16)
    (sequenceNumber acknowledgmentNumber : UInt32) (flags : TcpFlags) :
    UsbDevicePacketBuilder P H TcpHeader where
  payload := b.payload
  header := b.header
  tcpHdr :=
    { sourcePort := sourcePort
      destinationPort := destinationPort
      sequenceNumber := sequenceNumber
      windowSize := UsbDeviceConn.windowSize
      ack := flags.contains .ack
      syn := flags.contains .syn
      rst := flags.contains .rst
      acknowledgmentNumber := acknowledgmentNumber }

def build (b : UsbDevicePacketBuilder Unit (UInt16 × UInt16) TcpHeader) :
    UsbDevicePacket where
  header := .v2 (.new .tcp (UsbDevicePacketHeaderV2.size + TcpHeader.minLen)
    b.header.fst b.header.snd)
  tcpHdr := some b.tcpHdr
  payload := .bytes []

def buildBytes
    (b : UsbDevicePacketBuilder (List UInt8) (UInt16 × UInt16) TcpHeader) :
    UsbDevicePacket where
  header := .v2 (.new .tcp
    (UsbDevicePacketHeaderV2.size + TcpHeader.minLen + b.payload.length)
    b.header.fst b.header.snd)
  tcpHdr := some b.tcpHdr
  payload := .bytes b.payload

/-- A property list as text, behind its length and before a line feed. -/
def plistPayload (F : Plist.Format) (value : Plist.Value) : List UInt8 :=
  let payload := beBytes 4 0 ++ F.toXmlBytes value ++ [0x0a]
  let payloadLen : UInt32 := .ofNat (payload.length - 4)
  beBytes 4 payloadLen.toNat ++ payload.drop 4

def buildPlist (F : Plist.Format)
    (b : UsbDevicePacketBuilder Plist.Value (UInt16 × UInt16) TcpHeader) :
    UsbDevicePacket where
  header := .v2 (.new .tcp
    (UsbDevicePacketHeaderV2.size + TcpHeader.minLen +
      (plistPayload F b.payload).length)
    b.header.fst b.header.snd)
  tcpHdr := some b.tcpHdr
  payload := .bytes (plistPayload F b.payload)

def buildVersion
    (b : UsbDevicePacketBuilder UsbDevicePacketVersion Unit Unit) :
    UsbDevicePacket where
  header := .v1 (.new .version
    (.ofNat (UsbDevicePacketHeaderV1.size + UsbDevicePacketVersion.size)))
  tcpHdr := none
  payload := .version b.payload

def buildSetup
    (b : UsbDevicePacketBuilder (List UInt8) (UInt16 × UInt16) Unit) :
    UsbDevicePacket where
  header := .v2 (.new .setup (UsbDevicePacketHeaderV2.size + b.payload.length)
    b.header.fst b.header.snd)
  tcpHdr := none
  payload := .bytes b.payload

end UsbDevicePacketBuilder

end Parser
end Rusbmux
