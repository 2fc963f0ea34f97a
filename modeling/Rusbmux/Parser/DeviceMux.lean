import Rusbmux.Foundation.ByteReader
import Rusbmux.Parser.Error

/-!
# Device mux packets

The packets exchanged with a device over its bulk endpoints: a header of eight
or sixteen bytes, a TCP header for TCP packets, and a payload whose shape the
protocol decides.  The definitions follow `parser/device_mux/mod.rs`.

Every operation of the source that can stop the program is visible: slice
indexing, the cast of a slice to a version record, the subtraction of unsigned
lengths and the unchecked conversion of a protocol word all have `none` where
the source would panic or be undefined.  A `usize` has 64 bits, so a length
field always fits.
-/

namespace Rusbmux
namespace Parser

open Foundation

/-!
## TCP headers

The header record and its reader belong to a library.  The reader is a
parameter; all the parser relies on is that a successful read splits the slice
into a header of the reported length and the bytes after it.
-/

structure TcpHeader where
  sourcePort : UInt16
  destinationPort : UInt16
  sequenceNumber : UInt32
  acknowledgmentNumber : UInt32
  ns : Bool := false
  fin : Bool := false
  syn : Bool := false
  rst : Bool := false
  psh : Bool := false
  ack : Bool := false
  urg : Bool := false
  ece : Bool := false
  cwr : Bool := false
  windowSize : UInt16
  checksum : UInt16 := 0
  urgentPointer : UInt16 := 0
  options : List UInt8 := []
deriving DecidableEq, Repr

namespace TcpHeader

def minLen : Nat := 20

def headerLen (hdr : TcpHeader) : Nat :=
  minLen + hdr.options.length

end TcpHeader

/-- The TCP header reader of the packet library. -/
structure TcpHeaderReader where
  fromSlice : List UInt8 -> Except TcpHeaderSliceError (TcpHeader × List UInt8)
  fromSlice_length : forall bytes hdr rest,
    fromSlice bytes = .ok (hdr, rest) ->
      hdr.headerLen + rest.length = bytes.length

namespace TcpHeaderReader

theorem headerLen_of_minLen (E : TcpHeaderReader) {bytes rest : List UInt8}
    {hdr : TcpHeader} (hlen : bytes.length = TcpHeader.minLen)
    (h : E.fromSlice bytes = .ok (hdr, rest)) :
    hdr.headerLen = TcpHeader.minLen := by
  have hsplit := E.fromSlice_length bytes hdr rest h
  rw [hlen] at hsplit
  unfold TcpHeader.headerLen at *
  omega

def parse (words : Nat) (bytes : List UInt8) : TcpHeader where
  sourcePort := .ofNat (beNat (field bytes 0 2))
  destinationPort := .ofNat (beNat (field bytes 2 2))
  sequenceNumber := .ofNat (beNat (field bytes 4 4))
  acknowledgmentNumber := .ofNat (beNat (field bytes 8 4))
  ns := (beNat (field bytes 12 1)).testBit 0
  cwr := (beNat (field bytes 13 1)).testBit 7
  ece := (beNat (field bytes 13 1)).testBit 6
  urg := (beNat (field bytes 13 1)).testBit 5
  ack := (beNat (field bytes 13 1)).testBit 4
  psh := (beNat (field bytes 13 1)).testBit 3
  rst := (beNat (field bytes 13 1)).testBit 2
  syn := (beNat (field bytes 13 1)).testBit 1
  fin := (beNat (field bytes 13 1)).testBit 0
  windowSize := .ofNat (beNat (field bytes 14 2))
  checksum := .ofNat (beNat (field bytes 16 2))
  urgentPointer := .ofNat (beNat (field bytes 18 2))
  options := field bytes TcpHeader.minLen (4 * words - TcpHeader.minLen)

def fromSliceStandard (bytes : List UInt8) :
    Except TcpHeaderSliceError (TcpHeader × List UInt8) :=
  let words := beNat (field bytes 12 1) / 16
  if bytes.length < TcpHeader.minLen then
    .error (.len TcpHeader.minLen bytes.length)
  else if words < 5 then .error (.content words)
  else if bytes.length < 4 * words then .error (.len (4 * words) bytes.length)
  else .ok (parse words bytes, bytes.drop (4 * words))

theorem fromSliceStandard_length (bytes : List UInt8) (hdr : TcpHeader)
    (rest : List UInt8) (h : fromSliceStandard bytes = .ok (hdr, rest)) :
    hdr.headerLen + rest.length = bytes.length := by
  unfold fromSliceStandard at h
  generalize beNat (field bytes 12 1) / 16 = words at h
  by_cases hshort : bytes.length < TcpHeader.minLen
  · simp [hshort] at h
  by_cases hwords : words < 5
  · simp [hshort, hwords] at h
  by_cases hlen : bytes.length < 4 * words
  · simp [hshort, hwords, hlen] at h
  simp only [if_neg hshort, if_neg hwords, if_neg hlen] at h
  cases h
  show 20 + (field bytes 20 (4 * words - 20)).length + _ = _
  rw [field, List.length_take, List.length_drop, List.length_drop]
  omega

/--
A reader for the standard layout of the header, to run the parser on concrete
streams.
-/
def standard : TcpHeaderReader where
  fromSlice := fromSliceStandard
  fromSlice_length := fromSliceStandard_length

end TcpHeaderReader

/-!
## Protocols
-/

inductive UsbDevicePacketProtocol where
  | version
  | control
  | setup
  | tcp
deriving DecidableEq, Repr

namespace UsbDevicePacketProtocol

def toU32 : UsbDevicePacketProtocol -> UInt32
  | version => 0
  | control => 1
  | setup => 2
  | tcp => 6

def ofNat? : Nat -> Option UsbDevicePacketProtocol
  | 0 => some version
  | 1 => some control
  | 2 => some setup
  | 6 => some tcp
  | _ => none

def new (v : List UInt8) : Except ParseError UsbDevicePacketProtocol :=
  match ofNat? (beNat v) with
  | some protocol => .ok protocol
  | none =>
      .error (.invalidData s!"`{beNat v}` is not a valid device mux protocol")

/-- The unchecked conversion: `none` where its result would be undefined. -/
def fromU32Unchecked (v : UInt32) : Option UsbDevicePacketProtocol :=
  ofNat? v.toNat

end UsbDevicePacketProtocol

/-!
## Headers
-/

structure UsbDevicePacketHeaderV1 where
  protocol : UInt32
  length : UInt32
deriving DecidableEq, Repr

namespace UsbDevicePacketHeaderV1

def size : Nat := 8

def new (protocol : UsbDevicePacketProtocol) (length : UInt32) :
    UsbDevicePacketHeaderV1 where
  protocol := protocol.toU32
  length := length

def encode (h : UsbDevicePacketHeaderV1) : List UInt8 :=
  beBytes 4 h.protocol.toNat ++ beBytes 4 h.length.toNat

def decode (header : List UInt8) : UsbDevicePacketHeaderV1 where
  protocol := .ofNat (beNat (field header 0 4))
  length := .ofNat (beNat (field header 4 4))

end UsbDevicePacketHeaderV1

structure UsbDevicePacketHeaderV2 where
  protocol : UInt32
  length : UInt32
  magic : UInt32
  sendSeq : UInt16
  recvSeq : UInt16
deriving DecidableEq, Repr

namespace UsbDevicePacketHeaderV2

def size : Nat := 16

def deviceMuxHeaderV2Magic : UInt32 := 0xfeedface

def new (protocol : UsbDevicePacketProtocol) (length : Nat)
    (sendSeq recvSeq : UInt16) : UsbDevicePacketHeaderV2 where
  protocol := protocol.toU32
  length := .ofNat length
  magic := deviceMuxHeaderV2Magic
  sendSeq := sendSeq
  recvSeq := recvSeq

def encode (h : UsbDevicePacketHeaderV2) : List UInt8 :=
  beBytes 4 h.protocol.toNat ++ beBytes 4 h.length.toNat ++
    beBytes 4 h.magic.toNat ++ beBytes 2 h.sendSeq.toNat ++
    beBytes 2 h.recvSeq.toNat

def decode (header : List UInt8) : UsbDevicePacketHeaderV2 where
  protocol := .ofNat (beNat (field header 0 4))
  length := .ofNat (beNat (field header 4 4))
  magic := .ofNat (beNat (field header 8 4))
  sendSeq := .ofNat (beNat (field header 12 2))
  recvSeq := .ofNat (beNat (field header 14 2))

end UsbDevicePacketHeaderV2

inductive UsbDevicePacketHeader where
  | v1 (h : UsbDevicePacketHeaderV1)
  | v2 (h : UsbDevicePacketHeaderV2)
deriving DecidableEq, Repr

namespace UsbDevicePacketHeader

def size : UsbDevicePacketHeader -> Nat
  | v1 _ => UsbDevicePacketHeaderV1.size
  | v2 _ => UsbDevicePacketHeaderV2.size

def getProtocol : UsbDevicePacketHeader -> Option UsbDevicePacketProtocol
  | v1 h => UsbDevicePacketProtocol.fromU32Unchecked h.protocol
  | v2 h => UsbDevicePacketProtocol.fromU32Unchecked h.protocol

def getLength : UsbDevicePacketHeader -> UInt32
  | v1 h => h.length
  | v2 h => h.length

def encode : UsbDevicePacketHeader -> List UInt8
  | v1 h => h.encode
  | v2 h => h.encode

def fromReader (ending : IoError) : Reader ParseError UsbDevicePacketHeader := do
  let first <- Reader.readExact (.io ending) UsbDevicePacketHeaderV1.size
  let protocol <- Reader.ofExcept (UsbDevicePacketProtocol.new (field first 0 4))
  match protocol with
  | .version => pure (v1 (.decode first))
  | .tcp | .setup | .control => do
      let second <- Reader.readExact (.io ending)
        (UsbDevicePacketHeaderV2.size - UsbDevicePacketHeaderV1.size)
      pure (v2 (.decode (first ++ second)))

end UsbDevicePacketHeader

/-!
## Payloads
-/

structure UsbDevicePacketVersion where
  major : UInt32
  minor : UInt32
  padding : UInt32
deriving DecidableEq, Repr

namespace UsbDevicePacketVersion

def size : Nat := 12

def new (major minor padding : UInt32) : UsbDevicePacketVersion where
  major := major
  minor := minor
  padding := padding

/-- The cast of a slice, which panics unless the slice has the record's size. -/
def decode (payload : List UInt8) : Option UsbDevicePacketVersion :=
  if payload.length = size then
    some
      { major := .ofNat (beNat (field payload 0 4))
        minor := .ofNat (beNat (field payload 4 4))
        padding := .ofNat (beNat (field payload 8 4)) }
  else
    none

theorem decode_eq_none_iff (payload : List UInt8) :
    decode payload = none <-> payload.length ≠ size := by
  simp [decode]

def encode (version : UsbDevicePacketVersion) : List UInt8 :=
  beBytes 4 version.major.toNat ++ beBytes 4 version.minor.toNat ++
    beBytes 4 version.padding.toNat

end UsbDevicePacketVersion

inductive UsbDevicePacketPayload where
  | bytes (payload : List UInt8)
  | version (version : UsbDevicePacketVersion)
  | error (errorCode : Option UInt8) (message : Option String)
deriving DecidableEq, Repr

def sliceFrom (bytes : List UInt8) (start : Nat) : Option (List UInt8) :=
  if start <= bytes.length then some (bytes.drop start) else none

/-!
### Lossy text

The standard library's reading of bytes as text: a maximal start of a UTF-8
sequence that is not completed becomes one replacement character.
-/

def isContinuation (b : UInt8) : Bool :=
  0x80 <= b && b <= 0xBF

def utf8Lead (b : UInt8) : Option (Nat × UInt8 × UInt8) :=
  if 0xC2 <= b && b <= 0xDF then some (1, 0x80, 0xBF)
  else if b = 0xE0 then some (2, 0xA0, 0xBF)
  else if b = 0xED then some (2, 0x80, 0x9F)
  else if 0xE1 <= b && b <= 0xEF then some (2, 0x80, 0xBF)
  else if b = 0xF0 then some (3, 0x90, 0xBF)
  else if 0xF1 <= b && b <= 0xF3 then some (3, 0x80, 0xBF)
  else if b = 0xF4 then some (3, 0x80, 0x8F)
  else none

def continuationRun (wanted : Nat) (low high : UInt8) (rest : List UInt8) : Nat :=
  match wanted, rest with
  | wanted + 1, b :: rest =>
      if low <= b && b <= high then
        1 + ((rest.take wanted).takeWhile isContinuation).length
      else
        0
  | _, _ => 0

def utf8Value (lead : UInt8) (wanted : Nat) (continuation : List UInt8) : Nat :=
  continuation.foldl (fun acc b => acc * 64 + b.toNat % 64)
    (lead.toNat % 2 ^ (6 - wanted))

def utf8LossyChars : Nat -> List UInt8 -> List Char
  | 0, _ => []
  | _, [] => []
  | fuel + 1, b :: rest =>
      if b < 0x80 then
        Char.ofNat b.toNat :: utf8LossyChars fuel rest
      else
        match utf8Lead b with
        | none => Char.ofNat 0xFFFD :: utf8LossyChars fuel rest
        | some (wanted, low, high) =>
            let n := continuationRun wanted low high rest
            let char :=
              if n = wanted then Char.ofNat (utf8Value b wanted (rest.take n))
              else Char.ofNat 0xFFFD
            char :: utf8LossyChars fuel (rest.drop n)

def fromUtf8Lossy (bytes : List UInt8) : String :=
  String.ofList (utf8LossyChars bytes.length bytes)

namespace UsbDevicePacketPayload

def decode (payload : List UInt8) :
    UsbDevicePacketProtocol -> Option UsbDevicePacketPayload
  | .version => (UsbDevicePacketVersion.decode payload).map version
  | .control =>
      match payload.length with
      | 0 => some (error none none)
      | 1 => payload[0]?.map fun code => error (some code) none
      | _ => do
          let code <- payload[0]?
          let text <- sliceFrom payload 1
          some (error (some code) (some (fromUtf8Lossy text)))
  | .setup | .tcp => some (bytes payload)

def len : UsbDevicePacketPayload -> Nat
  | bytes payload => payload.length
  | version _ => UsbDevicePacketVersion.size
  | error (some _) (some message) => message.utf8ByteSize + 1
  | error (some _) none => 1
  | error none _ => 0

def encode : UsbDevicePacketPayload -> List UInt8
  | bytes payload => payload
  | version v => v.encode
  | error (some code) (some message) => code :: message.toUTF8.data.toList
  | error (some code) none => [code]
  | error none _ => []

theorem encode_length (payload : UsbDevicePacketPayload) :
    payload.encode.length = payload.len := by
  cases payload with
  | bytes payload => rfl
  | version v =>
      simp only [encode, UsbDevicePacketVersion.encode, List.length_append,
        beBytes_length]
      rfl
  | error code message =>
      cases code with
      | none => rfl
      | some code =>
          cases message with
          | none => rfl
          | some message =>
              show (code :: message.toUTF8.data.toList).length =
                message.utf8ByteSize + 1
              rw [List.length_cons, Array.length_toList]
              rfl

end UsbDevicePacketPayload

/-!
## Packets
-/

structure UsbDevicePacket where
  header : UsbDevicePacketHeader
  tcpHdr : Option TcpHeader
  payload : UsbDevicePacketPayload
deriving DecidableEq, Repr

def usizeSub (a b : Nat) : Option Nat :=
  if b <= a then some (a - b) else none

namespace UsbDevicePacket

def readTcpHeader (E : TcpHeaderReader) (ending : IoError) :
    UsbDevicePacketProtocol -> Reader ParseError (Option TcpHeader)
  | .tcp => do
      let tcpHdrBuff <- Reader.readExact (.io ending) TcpHeader.minLen
      let parsed <- Reader.ofExcept
        ((E.fromSlice tcpHdrBuff).mapError .tcpHeaderSlice)
      pure (some parsed.fst)
  | _ => pure none

def readPayload (ending : IoError) (header : UsbDevicePacketHeader)
    (protocol : UsbDevicePacketProtocol) (tcpHdr : Option TcpHeader) :
    Reader ParseError UsbDevicePacketPayload :=
  let tcpHdrLen := tcpHdr.elim 0 TcpHeader.headerLen
  let totalHeaderLen := header.size + tcpHdrLen
  let totalLength := header.getLength.toNat
  if totalLength < totalHeaderLen then
    Reader.throw (.invalidData
      s!"packet length {totalLength} is less than header size {totalHeaderLen}")
  else do
    let payloadLen <- Reader.orPanic (usizeSub totalLength totalHeaderLen)
    let payload <- Reader.readExact (.io ending) payloadLen
    Reader.orPanic (UsbDevicePacketPayload.decode payload protocol)

def fromReader (E : TcpHeaderReader) (ending : IoError) :
    Reader ParseError UsbDevicePacket := do
  let header <- UsbDevicePacketHeader.fromReader ending
  let protocol <- Reader.orPanic header.getProtocol
  let tcpHdr <- readTcpHeader E ending protocol
  let payload <- readPayload ending header protocol tcpHdr
  pure { header := header, tcpHdr := tcpHdr, payload := payload }

end UsbDevicePacket

end Parser
end Rusbmux
