import Rusbmux.Foundation.ChunkedReader
import Rusbmux.Parser.DeviceMuxBuilder

/-!
# Round trip of device mux packets

`UsbDevicePacket::encode`, and what `from_reader` makes of its bytes when they
come back over a stream in chunks.  The decoder computes the length of a payload
from the length field and the sizes of the headers in front of it, so a packet
is read back exactly if the builder has counted the same headers.
-/

namespace Rusbmux
namespace Parser

open Foundation

/-!
## TCP headers

The packet library writes headers too.  All that is assumed is that its reader
undoes its writer, for headers without options as the builder makes them.
-/

/-- The TCP header reader and writer of the packet library. -/
structure TcpHeaderCodec extends TcpHeaderReader where
  toBytes : TcpHeader -> List UInt8
  fromSlice_toBytes : forall hdr, hdr.options = [] ->
    fromSlice (toBytes hdr) = .ok (hdr, [])

namespace TcpHeaderCodec

theorem toBytes_length (C : TcpHeaderCodec) {hdr : TcpHeader}
    (hoptions : hdr.options = []) :
    (C.toBytes hdr).length = TcpHeader.minLen := by
  have hlength := C.fromSlice_length _ _ _ (C.fromSlice_toBytes hdr hoptions)
  rw [TcpHeader.headerLen, hoptions] at hlength
  exact hlength.symm

def flagBits (hdr : TcpHeader) : Nat :=
  128 * hdr.cwr.toNat + 64 * hdr.ece.toNat + 32 * hdr.urg.toNat +
    16 * hdr.ack.toNat + 8 * hdr.psh.toNat + 4 * hdr.rst.toNat +
    2 * hdr.syn.toNat + hdr.fin.toNat

def toBytesStandard (hdr : TcpHeader) : List UInt8 :=
  beBytes 2 hdr.sourcePort.toNat ++ beBytes 2 hdr.destinationPort.toNat ++
    beBytes 4 hdr.sequenceNumber.toNat ++
    beBytes 4 hdr.acknowledgmentNumber.toNat ++
    [.ofNat (16 * (5 + hdr.options.length / 4) + hdr.ns.toNat),
      .ofNat (flagBits hdr)] ++
    beBytes 2 hdr.windowSize.toNat ++ beBytes 2 hdr.checksum.toNat ++
    beBytes 2 hdr.urgentPointer.toNat ++ hdr.options

end TcpHeaderCodec

/-!
## Words
-/

theorem beNat_beBytes {width n : Nat} (h : n < 256 ^ width) :
    beNat (beBytes width n) = n := by
  rw [beNat, beBytes, List.reverse_reverse, leNat_leBytes h]

theorem ofNat_beBytes_16 (v : UInt16) :
    UInt16.ofNat (beNat (beBytes 2 v.toNat)) = v := by
  rw [beNat_beBytes (by simpa using v.toNat_lt)]
  exact UInt16.ofNat_toNat

theorem ofNat_beBytes_32 (v : UInt32) :
    UInt32.ofNat (beNat (beBytes 4 v.toNat)) = v := by
  rw [beNat_beBytes (by simpa using v.toNat_lt)]
  exact UInt32.ofNat_toNat

theorem beNat_singleton (b : UInt8) : beNat [b] = b.toNat := rfl

namespace TcpHeaderCodec

theorem testBit_byte (b7 b6 b5 b4 b3 b2 b1 b0 : Bool) :
    let bits := (UInt8.ofNat (128 * b7.toNat + 64 * b6.toNat +
      32 * b5.toNat + 16 * b4.toNat + 8 * b3.toNat + 4 * b2.toNat +
      2 * b1.toNat + b0.toNat)).toNat
    (bits.testBit 7 = b7 ∧ bits.testBit 6 = b6 ∧ bits.testBit 5 = b5 ∧
      bits.testBit 4 = b4) ∧
    (bits.testBit 3 = b3 ∧ bits.testBit 2 = b2 ∧ bits.testBit 1 = b1 ∧
      bits.testBit 0 = b0) := by
  revert b7 b6 b5 b4 b3 b2 b1 b0
  decide

theorem testBit_dataOffset (ns : Bool) :
    (UInt8.ofNat (16 * (5 + 0 / 4) + ns.toNat)).toNat.testBit 0 = ns ∧
      (UInt8.ofNat (16 * (5 + 0 / 4) + ns.toNat)).toNat / 16 = 5 := by
  cases ns with
  | false => exact ⟨rfl, rfl⟩
  | true => exact ⟨rfl, rfl⟩

theorem field_dataOffset {hdr : TcpHeader} (h : hdr.options = []) :
    field (toBytesStandard hdr) 12 1 =
      [UInt8.ofNat (16 * (5 + 0 / 4) + hdr.ns.toNat)] := by
  have hfield : field (toBytesStandard hdr) 12 1 =
      [UInt8.ofNat (16 * (5 + hdr.options.length / 4) + hdr.ns.toNat)] := rfl
  rw [hfield, h, List.length_nil]

theorem toBytesStandard_length {hdr : TcpHeader} (h : hdr.options = []) :
    (toBytesStandard hdr).length = 20 := by
  unfold toBytesStandard
  rw [h]
  rfl

theorem parse_toBytesStandard {hdr : TcpHeader} (h : hdr.options = []) :
    TcpHeaderReader.parse 5 (toBytesStandard hdr) = hdr := by
  have hsource : field (toBytesStandard hdr) 0 2 =
      beBytes 2 hdr.sourcePort.toNat := rfl
  have hdestination : field (toBytesStandard hdr) 2 2 =
      beBytes 2 hdr.destinationPort.toNat := rfl
  have hsequence : field (toBytesStandard hdr) 4 4 =
      beBytes 4 hdr.sequenceNumber.toNat := rfl
  have hacknowledgment : field (toBytesStandard hdr) 8 4 =
      beBytes 4 hdr.acknowledgmentNumber.toNat := rfl
  have hflags : field (toBytesStandard hdr) 13 1 =
      [UInt8.ofNat (flagBits hdr)] := rfl
  have hwindow : field (toBytesStandard hdr) 14 2 =
      beBytes 2 hdr.windowSize.toNat := rfl
  have hchecksum : field (toBytesStandard hdr) 16 2 =
      beBytes 2 hdr.checksum.toNat := rfl
  have hurgent : field (toBytesStandard hdr) 18 2 =
      beBytes 2 hdr.urgentPointer.toNat := rfl
  have hoptions : field (toBytesStandard hdr) TcpHeader.minLen
      (4 * 5 - TcpHeader.minLen) = hdr.options := by
    rw [h]
    exact List.take_zero
  rcases testBit_byte hdr.cwr hdr.ece hdr.urg hdr.ack hdr.psh hdr.rst hdr.syn
    hdr.fin with ⟨⟨h7, h6, h5, h4⟩, ⟨h3, h2, h1, h0⟩⟩
  unfold TcpHeaderReader.parse
  rw [hsource, hdestination, hsequence, hacknowledgment, hflags, hwindow,
    hchecksum, hurgent, hoptions, field_dataOffset h, beNat_singleton,
    beNat_singleton, (testBit_dataOffset hdr.ns).left, flagBits, h7, h6, h5,
    h4, h3, h2, h1, h0]
  simp only [ofNat_beBytes_16, ofNat_beBytes_32]

theorem fromSliceStandard_toBytes (hdr : TcpHeader) (h : hdr.options = []) :
    TcpHeaderReader.fromSliceStandard (toBytesStandard hdr) =
      .ok (hdr, []) := by
  have hwords : beNat (field (toBytesStandard hdr) 12 1) / 16 = 5 := by
    rw [field_dataOffset h, beNat_singleton]
    exact (testBit_dataOffset hdr.ns).right
  have hlength := toBytesStandard_length h
  have hrest : (toBytesStandard hdr).drop (4 * 5) = [] :=
    List.drop_eq_nil_of_le (Nat.le_of_eq hlength)
  unfold TcpHeaderReader.fromSliceStandard
  simp only [hwords, hlength, hrest, parse_toBytesStandard h]
  rfl

def standard : TcpHeaderCodec where
  fromSlice := TcpHeaderReader.fromSliceStandard
  fromSlice_length := TcpHeaderReader.fromSliceStandard_length
  toBytes := toBytesStandard
  fromSlice_toBytes := fromSliceStandard_toBytes

end TcpHeaderCodec

/-!
## Encoding and decoding
-/

namespace UsbDevicePacket

def encode (C : TcpHeaderCodec) (packet : UsbDevicePacket) : List UInt8 :=
  packet.header.encode ++ packet.tcpHdr.elim [] C.toBytes ++
    packet.payload.encode

def framedSize (packet : UsbDevicePacket) : Nat :=
  packet.header.size + packet.tcpHdr.elim 0 TcpHeader.headerLen +
    packet.payload.len

end UsbDevicePacket

/-!
The decoder over a source that returns the stream in chunks.
-/

def UsbDevicePacketHeader.fromChunks (ending : IoError) :
    ChunkedReader ParseError UsbDevicePacketHeader := do
  let first <- ChunkedReader.readExact (.io ending) UsbDevicePacketHeaderV1.size
  let protocol <- ChunkedReader.ofExcept
    (UsbDevicePacketProtocol.new (field first 0 4))
  match protocol with
  | .version => pure (v1 (.decode first))
  | .tcp | .setup | .control => do
      let second <- ChunkedReader.readExact (.io ending)
        (UsbDevicePacketHeaderV2.size - UsbDevicePacketHeaderV1.size)
      pure (v2 (.decode (first ++ second)))

namespace UsbDevicePacket

def tcpHeaderFromChunks (E : TcpHeaderReader) (ending : IoError) :
    UsbDevicePacketProtocol -> ChunkedReader ParseError (Option TcpHeader)
  | .tcp => do
      let tcpHdrBuff <- ChunkedReader.readExact (.io ending) TcpHeader.minLen
      let parsed <- ChunkedReader.ofExcept
        ((E.fromSlice tcpHdrBuff).mapError .tcpHeaderSlice)
      pure (some parsed.fst)
  | _ => pure none

def payloadFromChunks (ending : IoError) (header : UsbDevicePacketHeader)
    (protocol : UsbDevicePacketProtocol) (tcpHdr : Option TcpHeader) :
    ChunkedReader ParseError UsbDevicePacketPayload :=
  let tcpHdrLen := tcpHdr.elim 0 TcpHeader.headerLen
  let totalHeaderLen := header.size + tcpHdrLen
  let totalLength := header.getLength.toNat
  if totalLength < totalHeaderLen then
    ChunkedReader.throw (.invalidData
      s!"packet length {totalLength} is less than header size {totalHeaderLen}")
  else do
    let payloadLen <- ChunkedReader.orPanic
      (usizeSub totalLength totalHeaderLen)
    let payload <- ChunkedReader.readExact (.io ending) payloadLen
    ChunkedReader.orPanic (UsbDevicePacketPayload.decode payload protocol)

def fromChunks (E : TcpHeaderReader) (ending : IoError) :
    ChunkedReader ParseError UsbDevicePacket := do
  let header <- UsbDevicePacketHeader.fromChunks ending
  let protocol <- ChunkedReader.orPanic header.getProtocol
  let tcpHdr <- tcpHeaderFromChunks E ending protocol
  let payload <- payloadFromChunks ending header protocol tcpHdr
  pure { header := header, tcpHdr := tcpHdr, payload := payload }

end UsbDevicePacket

open ChunkedReader in
theorem UsbDevicePacketHeader.fromChunks_simulates (ending : IoError) :
    Simulates (fromChunks ending) (fromReader ending) := by
  apply simulates_bind (simulates_readExact _ _)
  intro first
  apply simulates_bind (simulates_ofExcept _)
  intro protocol
  have hsecond := simulates_bind
    (simulates_readExact (.io ending : ParseError)
      (UsbDevicePacketHeaderV2.size - UsbDevicePacketHeaderV1.size))
    fun second => simulates_pure (v2 (.decode (first ++ second)))
  cases protocol with
  | version => exact simulates_pure _
  | tcp => exact hsecond
  | setup => exact hsecond
  | control => exact hsecond

namespace UsbDevicePacket

open ChunkedReader in
theorem fromChunks_simulates (E : TcpHeaderReader) (ending : IoError) :
    Simulates (fromChunks E ending) (fromReader E ending) := by
  apply simulates_bind (UsbDevicePacketHeader.fromChunks_simulates ending)
  intro header
  apply simulates_bind (simulates_orPanic _)
  intro protocol
  apply simulates_bind
  · cases protocol with
    | tcp =>
        apply simulates_bind (simulates_readExact _ _)
        intro tcpHdrBuff
        apply simulates_bind (simulates_ofExcept _)
        intro parsed
        exact simulates_pure _
    | version => exact simulates_pure _
    | control => exact simulates_pure _
    | setup => exact simulates_pure _
  · intro tcpHdr
    apply simulates_bind
    · unfold payloadFromChunks readPayload
      simp only
      split
      · exact simulates_throw _
      · apply simulates_bind (simulates_orPanic _)
        intro payloadLen
        apply simulates_bind (simulates_readExact _ _)
        intro payload
        exact simulates_orPanic _
    · intro payload
      exact simulates_pure _

end UsbDevicePacket

/-!
## Decoding what was encoded
-/

theorem UsbDevicePacketProtocol.new_toU32 (protocol : UsbDevicePacketProtocol) :
    UsbDevicePacketProtocol.new (beBytes 4 protocol.toU32.toNat) =
      .ok protocol := by
  cases protocol with
  | version => rfl
  | control => rfl
  | setup => rfl
  | tcp => rfl

theorem UsbDevicePacketVersion.decode_encode (v : UsbDevicePacketVersion) :
    UsbDevicePacketVersion.decode v.encode = some v := by
  have hlength : v.encode.length = UsbDevicePacketVersion.size := rfl
  have hmajor : field v.encode 0 4 = beBytes 4 v.major.toNat := rfl
  have hminor : field v.encode 4 4 = beBytes 4 v.minor.toNat := rfl
  have hpadding : field v.encode 8 4 = beBytes 4 v.padding.toNat := rfl
  unfold UsbDevicePacketVersion.decode
  rw [if_pos hlength, hmajor, hminor, hpadding, ofNat_beBytes_32,
    ofNat_beBytes_32, ofNat_beBytes_32]

namespace UsbDevicePacketHeader

theorem encode_length (header : UsbDevicePacketHeader) :
    header.encode.length = header.size := by
  cases header with
  | v1 h => rfl
  | v2 h => rfl

inductive IsFor : UsbDevicePacketProtocol -> UsbDevicePacketHeader -> Prop where
  | v1 (length : UInt32) : IsFor .version (.v1 (.new .version length))
  | v2 {protocol : UsbDevicePacketProtocol} (h : protocol ≠ .version)
      (length : Nat) (sendSeq recvSeq : UInt16) :
      IsFor protocol (.v2 (.new protocol length sendSeq recvSeq))

theorem IsFor.getProtocol {protocol : UsbDevicePacketProtocol}
    {header : UsbDevicePacketHeader} (h : IsFor protocol header) :
    header.getProtocol = some protocol := by
  cases h with
  | v1 length => rfl
  | v2 hne length sendSeq recvSeq =>
      cases protocol with
      | version => rfl
      | control => rfl
      | setup => rfl
      | tcp => rfl

theorem decode_encode_v1 (h : UsbDevicePacketHeaderV1) :
    UsbDevicePacketHeaderV1.decode h.encode = h := by
  have hprotocol : field h.encode 0 4 = beBytes 4 h.protocol.toNat := rfl
  have hlength : field h.encode 4 4 = beBytes 4 h.length.toNat := rfl
  unfold UsbDevicePacketHeaderV1.decode
  rw [hprotocol, hlength, ofNat_beBytes_32, ofNat_beBytes_32]

theorem decode_encode_v2 (h : UsbDevicePacketHeaderV2) :
    UsbDevicePacketHeaderV2.decode h.encode = h := by
  have hprotocol : field h.encode 0 4 = beBytes 4 h.protocol.toNat := rfl
  have hlength : field h.encode 4 4 = beBytes 4 h.length.toNat := rfl
  have hmagic : field h.encode 8 4 = beBytes 4 h.magic.toNat := rfl
  have hsend : field h.encode 12 2 = beBytes 2 h.sendSeq.toNat := rfl
  have hrecv : field h.encode 14 2 = beBytes 2 h.recvSeq.toNat := rfl
  unfold UsbDevicePacketHeaderV2.decode
  rw [hprotocol, hlength, hmagic, hsend, hrecv, ofNat_beBytes_32,
    ofNat_beBytes_32, ofNat_beBytes_32, ofNat_beBytes_16, ofNat_beBytes_16]

theorem fromReader_encode (ending : IoError)
    {protocol : UsbDevicePacketProtocol} {header : UsbDevicePacketHeader}
    (h : IsFor protocol header) (later : List UInt8) :
    (fromReader ending).run (header.encode ++ later) = .ok header later := by
  cases h with
  | v1 length =>
      let h : UsbDevicePacketHeaderV1 := .new .version length
      have hlength : h.encode.length = UsbDevicePacketHeaderV1.size := rfl
      have hfirst := Reader.run_readExact_append (.io ending : ParseError)
        hlength later
      have hnew : UsbDevicePacketProtocol.new (field h.encode 0 4) =
          .ok .version := UsbDevicePacketProtocol.new_toU32 .version
      unfold fromReader
      show Reader.run _ (h.encode ++ later) = _
      rw [Reader.run_bind_of_ok hfirst, hnew,
        Reader.run_bind_of_ok (Reader.run_ofExcept_ok _ _)]
      show Outcome.ok (v1 (.decode h.encode)) later = _
      rw [decode_encode_v1]
  | v2 hne length sendSeq recvSeq =>
      let h : UsbDevicePacketHeaderV2 := .new protocol length sendSeq recvSeq
      have hnew : UsbDevicePacketProtocol.new (field (h.encode.take 8) 0 4) =
          .ok protocol := UsbDevicePacketProtocol.new_toU32 protocol
      have hsplit : h.encode ++ later =
          h.encode.take 8 ++ (h.encode.drop 8 ++ later) := by
        rw [← List.append_assoc, List.take_append_drop]
      have htake : (h.encode.take 8).length =
          UsbDevicePacketHeaderV1.size := rfl
      have hdrop : (h.encode.drop 8).length =
          UsbDevicePacketHeaderV2.size - UsbDevicePacketHeaderV1.size := rfl
      have hfirst := Reader.run_readExact_append (.io ending : ParseError)
        htake (h.encode.drop 8 ++ later)
      have hrest := Reader.run_readExact_append (.io ending : ParseError)
        hdrop later
      have hsecond : (Reader.readExact (.io ending : ParseError)
          (UsbDevicePacketHeaderV2.size - UsbDevicePacketHeaderV1.size) >>=
            fun second => pure (v2 (.decode (h.encode.take 8 ++ second)))).run
          (h.encode.drop 8 ++ later) = .ok (.v2 h) later := by
        rw [Reader.run_bind_of_ok hrest, List.take_append_drop,
          decode_encode_v2]
        rfl
      unfold fromReader
      show Reader.run _ (h.encode ++ later) = _
      rw [hsplit, Reader.run_bind_of_ok hfirst, hnew,
        Reader.run_bind_of_ok (Reader.run_ofExcept_ok _ _)]
      cases protocol with
      | version => exact absurd rfl hne
      | control => exact hsecond
      | setup => exact hsecond
      | tcp => exact hsecond

end UsbDevicePacketHeader

namespace UsbDevicePacket

/-- The decoder's view of a packet agrees with the packet. -/
structure WellFramed (protocol : UsbDevicePacketProtocol)
    (packet : UsbDevicePacket) : Prop where
  header : UsbDevicePacketHeader.IsFor protocol packet.header
  tcpHdr : protocol = .tcp ∧
      (exists tcpHdr, packet.tcpHdr = some tcpHdr ∧ tcpHdr.options = []) ∨
    protocol ≠ .tcp ∧ packet.tcpHdr = none
  length : packet.header.getLength.toNat = packet.framedSize
  payload : UsbDevicePacketPayload.decode packet.payload.encode protocol =
    some packet.payload

namespace WellFramed

variable {protocol : UsbDevicePacketProtocol} {packet : UsbDevicePacket}

theorem tcpHdr_length (h : WellFramed protocol packet) (C : TcpHeaderCodec) :
    (packet.tcpHdr.elim [] C.toBytes).length =
      packet.tcpHdr.elim 0 TcpHeader.headerLen := by
  rcases h.tcpHdr with ⟨_, tcpHdr, hsome, hoptions⟩ | ⟨_, hnone⟩
  · rw [hsome]
    show (C.toBytes tcpHdr).length = tcpHdr.headerLen
    rw [C.toBytes_length hoptions, TcpHeader.headerLen, hoptions]
    rfl
  · rw [hnone]
    rfl

theorem encode_length (h : WellFramed protocol packet) (C : TcpHeaderCodec) :
    (packet.encode C).length = packet.header.getLength.toNat := by
  rw [h.length, encode, List.length_append, List.length_append,
    h.tcpHdr_length C, UsbDevicePacketHeader.encode_length,
    UsbDevicePacketPayload.encode_length]
  rfl

theorem readTcpHeader_run (h : WellFramed protocol packet)
    (C : TcpHeaderCodec) (ending : IoError) (later : List UInt8) :
    (readTcpHeader C.toTcpHeaderReader ending protocol).run
      (packet.tcpHdr.elim [] C.toBytes ++ later) =
        .ok packet.tcpHdr later := by
  rcases h.tcpHdr with ⟨rfl, tcpHdr, hsome, hoptions⟩ | ⟨hne, hnone⟩
  · rw [hsome]
    have hread := Reader.run_readExact_append (.io ending : ParseError)
      (C.toBytes_length hoptions) later
    unfold readTcpHeader
    show Reader.run _ (C.toBytes tcpHdr ++ later) = _
    rw [Reader.run_bind_of_ok hread, C.fromSlice_toBytes tcpHdr hoptions]
    rfl
  · rw [hnone]
    cases protocol with
    | tcp => exact absurd rfl hne
    | version => rfl
    | control => rfl
    | setup => rfl

theorem readPayload_run (h : WellFramed protocol packet) (ending : IoError)
    (later : List UInt8) :
    (readPayload ending packet.header protocol packet.tcpHdr).run
      (packet.payload.encode ++ later) = .ok packet.payload later := by
  have hsize : packet.header.getLength.toNat =
      packet.header.size + packet.tcpHdr.elim 0 TcpHeader.headerLen +
        packet.payload.len := h.length
  have hle := Nat.le_add_right
    (packet.header.size + packet.tcpHdr.elim 0 TcpHeader.headerLen)
    packet.payload.len
  have hread := Reader.run_readExact_append (.io ending : ParseError)
    (UsbDevicePacketPayload.encode_length packet.payload) later
  unfold readPayload
  simp only
  rw [hsize, if_neg (Nat.not_lt.mpr hle), usizeSub, if_pos hle,
    Nat.add_sub_cancel_left,
    Reader.run_bind_of_ok (Reader.run_orPanic_some _ _),
    Reader.run_bind_of_ok hread, h.payload]
  rfl

theorem fromReader_encode (h : WellFramed protocol packet)
    (C : TcpHeaderCodec) (ending : IoError) (later : List UInt8) :
    (fromReader C.toTcpHeaderReader ending).run (packet.encode C ++ later) =
      .ok packet later := by
  have hheader := UsbDevicePacketHeader.fromReader_encode ending h.header
    (packet.tcpHdr.elim [] C.toBytes ++ (packet.payload.encode ++ later))
  unfold fromReader encode
  rw [List.append_assoc, List.append_assoc, Reader.run_bind_of_ok hheader,
    h.header.getProtocol, Reader.run_bind_of_ok (Reader.run_orPanic_some _ _),
    Reader.run_bind_of_ok (h.readTcpHeader_run C ending _),
    Reader.run_bind_of_ok (h.readPayload_run ending later)]
  rfl

end WellFramed

/-!
## Packets of the builder
-/

structure TcpParts where
  sendSeq : UInt16
  recvSeq : UInt16
  sourcePort : UInt16
  destinationPort : UInt16
  sequenceNumber : UInt32
  acknowledgmentNumber : UInt32
  flags : TcpFlags

def TcpParts.headers (parts : TcpParts) :
    UsbDevicePacketBuilder Unit (UInt16 × UInt16) TcpHeader :=
  UsbDevicePacket.builder
    |>.headerTcp parts.sendSeq parts.recvSeq
    |>.tcpHeader parts.sourcePort parts.destinationPort parts.sequenceNumber
      parts.acknowledgmentNumber parts.flags

/-- The ways to use the builder. -/
inductive Build where
  | flag (parts : TcpParts)
  | bytes (parts : TcpParts) (value : List UInt8)
  | plist (parts : TcpParts) (value : Plist.Value)
  | version (major minor : UInt32)
  | setup (value : List UInt8)
  | sequencedSetup (sendSeq recvSeq : UInt16) (value : List UInt8)

namespace Build

def packet (F : Plist.Format) : Build -> UsbDevicePacket
  | flag parts => parts.headers.build
  | bytes parts value => (parts.headers.payloadBytes value).buildBytes
  | plist parts value => (parts.headers.payloadPlist value).buildPlist F
  | version major minor =>
      (builder.headerVersion.payloadVersion major minor).buildVersion
  | setup value => (builder.headerSetup.payloadBytes value).buildSetup
  | sequencedSetup sendSeq recvSeq value =>
      ((builder.headerTcp sendSeq recvSeq).payloadBytes value).buildSetup

theorem toNat_length {n : Nat} (h : n < 2 ^ 32) : (UInt32.ofNat n).toNat = n :=
  UInt32.toNat_ofNat_of_lt' h

theorem wellFramed (F : Plist.Format) (b : Build)
    (hfits : (b.packet F).framedSize < 2 ^ 32) :
    exists protocol, WellFramed protocol (b.packet F) := by
  have htcp : UsbDevicePacketProtocol.tcp ≠ .version := nofun
  have hsetup : UsbDevicePacketProtocol.setup ≠ .version := nofun
  have hplain : UsbDevicePacketProtocol.setup ≠ .tcp := nofun
  cases b with
  | flag parts =>
      exact ⟨.tcp, .v2 htcp _ _ _, Or.inl ⟨rfl, _, rfl, rfl⟩, rfl, rfl⟩
  | bytes parts value =>
      exact ⟨.tcp, .v2 htcp _ _ _, Or.inl ⟨rfl, _, rfl, rfl⟩,
        toNat_length hfits, rfl⟩
  | plist parts value =>
      exact ⟨.tcp, .v2 htcp _ _ _, Or.inl ⟨rfl, _, rfl, rfl⟩,
        toNat_length hfits, rfl⟩
  | version major minor =>
      refine ⟨.version, .v1 _, Or.inr ⟨nofun, rfl⟩, rfl, ?_⟩
      show Option.map _ (UsbDevicePacketVersion.decode
        (UsbDevicePacketVersion.new major minor 0).encode) = _
      rw [UsbDevicePacketVersion.decode_encode]
      rfl
  | setup value =>
      exact ⟨.setup, .v2 hsetup _ _ _, Or.inr ⟨hplain, rfl⟩,
        toNat_length hfits, rfl⟩
  | sequencedSetup sendSeq recvSeq value =>
      exact ⟨.setup, .v2 hsetup _ _ _, Or.inr ⟨hplain, rfl⟩,
        toNat_length hfits, rfl⟩

/-- A property list goes behind the number of the bytes that follow. -/
def PrefixExact (F : Plist.Format) (b : Build) : Prop :=
  forall parts value, b = plist parts value ->
    exists front back, (b.packet F).payload = .bytes (front ++ back) ∧
      front.length = 4 ∧ beNat front = back.length

theorem prefixExact (F : Plist.Format) (b : Build)
    (hfits : (b.packet F).framedSize < 2 ^ 32) : b.PrefixExact F := by
  intro parts value hplist
  subst hplist
  let text := F.toXmlBytes value ++ [0x0a]
  let payloadLen : UInt32 :=
    .ofNat ((beBytes 4 0 ++ F.toXmlBytes value ++ [0x0a]).length - 4)
  have hlength : (beBytes 4 0 ++ F.toXmlBytes value ++ [0x0a]).length - 4 =
      text.length := by
    rw [List.append_assoc, List.length_append, beBytes_length,
      Nat.add_sub_cancel_left]
  have hdrop : (beBytes 4 0 ++ F.toXmlBytes value ++ [0x0a]).drop 4 = text := by
    rw [List.append_assoc]
    exact List.drop_left' (beBytes_length 4 0)
  have hpayload : (beBytes 4 payloadLen.toNat ++ text).length =
      4 + text.length := by
    rw [List.length_append, beBytes_length]
  refine ⟨beBytes 4 payloadLen.toNat, text, ?_, beBytes_length 4 _, ?_⟩
  · show UsbDevicePacketPayload.bytes (beBytes 4 payloadLen.toNat ++
      (beBytes 4 0 ++ F.toXmlBytes value ++ [0x0a]).drop 4) = _
    rw [hdrop]
  · have hsize : text.length <= ((plist parts value).packet F).framedSize := by
      show text.length <= _ + (beBytes 4 payloadLen.toNat ++
        (beBytes 4 0 ++ F.toXmlBytes value ++ [0x0a]).drop 4).length
      rw [hdrop, hpayload]
      omega
    have hlt : text.length < 2 ^ 32 := Nat.lt_of_le_of_lt hsize hfits
    rw [beNat_beBytes (by simpa using payloadLen.toNat_lt)]
    show (UInt32.ofNat _).toNat = _
    rw [hlength, toNat_length hlt]

end Build

/-!
## Streams of packets
-/

/--
The packets of any uses of the builder come back as they were, in whatever
chunks their bytes arrive, and then the stream ends.  Each packet is as long as
its header says, and a property list as long as its prefix says.
-/
theorem readMany_encode (C : TcpHeaderCodec) (F : Plist.Format)
    (ending : IoError) (builds : List Build)
    (hfits : forall b, b ∈ builds -> (b.packet F).framedSize < 2 ^ 32)
    (source : List Chunk)
    (hsource : Chunk.bytes source =
      builds.flatMap fun b => (b.packet F).encode C)
    (n : Nat) (hn : builds.length < n) :
    (fromChunks C.toTcpHeaderReader ending).readMany n source =
        (builds.map (Build.packet F), some (.error (.io ending) [])) ∧
      forall b, b ∈ builds ->
        ((b.packet F).encode C).length =
            (b.packet F).header.getLength.toNat ∧
          b.PrefixExact F := by
  constructor
  · have hread : forall packet, packet ∈ builds.map (Build.packet F) ->
        forall later, (fromReader C.toTcpHeaderReader ending).run
          (packet.encode C ++ later) = .ok packet later := by
      intro packet hpacket later
      rcases List.mem_map.mp hpacket with ⟨b, hb, rfl⟩
      rcases b.wellFramed F (hfits b hb) with ⟨protocol, hframed⟩
      exact hframed.fromReader_encode C ending later
    apply ChunkedReader.readMany_flatMap
      (fromChunks_simulates C.toTcpHeaderReader ending) rfl hread
    · rw [hsource, List.flatMap_map]
    · rw [List.length_map]
      exact hn
  · intro b hb
    rcases b.wellFramed F (hfits b hb) with ⟨protocol, hframed⟩
    exact ⟨hframed.encode_length C, b.prefixExact F (hfits b hb)⟩

def withoutPlists : Plist.Format where
  fromBytes := fun _ => .error ⟨""⟩
  toXmlBytes := fun _ => []

def firstPackets : List Build :=
  [.version 2 0,
    .flag
      { sendSeq := 0, recvSeq := 0, sourcePort := 1, destinationPort := 62078
        sequenceNumber := 0, acknowledgmentNumber := 0, flags := .syn }]

def firstBytes : List UInt8 :=
  firstPackets.flatMap fun b => (b.packet withoutPlists).encode .standard

def firstChunks : List Chunk :=
  [⟨firstBytes.take 10, nofun⟩, ⟨firstBytes.drop 10, nofun⟩]

def earlyEof : IoError where
  kind := .unexpectedEof
  message := "early eof"

theorem readMany_encode_firstPackets :
    (fromChunks .standard earlyEof).readMany 3 firstChunks =
        (firstPackets.map (Build.packet withoutPlists),
          some (.error (.io earlyEof) [])) ∧
      forall b, b ∈ firstPackets ->
        ((b.packet withoutPlists).encode .standard).length =
            (b.packet withoutPlists).header.getLength.toNat ∧
          b.PrefixExact withoutPlists :=
  readMany_encode .standard withoutPlists earlyEof firstPackets (by decide)
    firstChunks rfl 3 (by decide)

end UsbDevicePacket

end Parser
end Rusbmux
