import Rusbmux.Foundation.ChunkedReader
import Rusbmux.Parser.UsbMux

/-!
# Streams of client packets

What `UsbMuxPacket::from_reader` makes of the bytes of `encode_from` when they
come back over a stream in chunks.  The length word counts the header, so the
reader gets the length of the payload back by subtracting it again.
-/

namespace Rusbmux
namespace Parser

open Foundation
open Plist

/-!
## Words of a header
-/

theorem field_between {front word : List UInt8} {offset width : Nat}
    (hfront : front.length = offset) (hword : word.length = width)
    (back : List UInt8) :
    field (front ++ (word ++ back)) offset width = word := by
  subst hfront
  subst hword
  rw [field, List.drop_left, List.take_left]

theorem field_front {word : List UInt8} {width : Nat}
    (hword : word.length = width) (back : List UInt8) :
    field (word ++ back) 0 width = word :=
  field_between List.length_nil hword back

namespace UsbMuxVersion

theorem toU32_lt (version : UsbMuxVersion) : version.toU32 < 256 ^ 4 := by
  cases version <;> decide

theorem ofNat?_toU32 (version : UsbMuxVersion) :
    ofNat? version.toU32 = some version := by
  cases version <;> rfl

end UsbMuxVersion

namespace UsbMuxMsgType

theorem toU32_lt (msgType : UsbMuxMsgType) : msgType.toU32 < 256 ^ 4 := by
  cases msgType <;> decide

theorem ofNat?_toU32 (msgType : UsbMuxMsgType) :
    ofNat? msgType.toU32 = some msgType := by
  cases msgType <;> rfl

end UsbMuxMsgType

namespace UsbMuxHeader

variable (header : UsbMuxHeader) (later : List UInt8)

theorem encode_length : header.encode.length = size := by
  simp [encode, leBytes_length, size]

theorem encode_append :
    header.encode ++ later =
      leBytes 4 header.len.toNat ++ (leBytes 4 header.version.toU32 ++
        (leBytes 4 header.msgType.toU32 ++
          (leBytes 4 header.tag.toNat ++ later))) := by
  simp [encode, List.append_assoc]

theorem clientLength_encode :
    clientLength (header.encode ++ later) = header.len.toNat := by
  unfold clientLength
  rw [encode_append, field_front (leBytes_length 4 _),
    leNat_leBytes header.len.toNat_lt]

theorem clientVersion_encode :
    clientVersion (header.encode ++ later) = some header.version := by
  unfold clientVersion
  rw [encode_append, field_between (leBytes_length 4 _) (leBytes_length 4 _),
    leNat_leBytes header.version.toU32_lt, UsbMuxVersion.ofNat?_toU32]

theorem clientMsgType_encode :
    clientMsgType (header.encode ++ later) = some header.msgType := by
  unfold clientMsgType
  rw [encode_append, ← List.append_assoc (leBytes 4 header.len.toNat),
    field_between (by simp [leBytes_length]) (leBytes_length 4 _),
    leNat_leBytes header.msgType.toU32_lt, UsbMuxMsgType.ofNat?_toU32]

theorem clientTag_encode :
    leNat (field (header.encode ++ later) 12 4) = header.tag.toNat := by
  rw [encode_append, ← List.append_assoc (leBytes 4 header.len.toNat),
    ← List.append_assoc (leBytes 4 header.len.toNat ++ _),
    field_between (by simp [leBytes_length]) (leBytes_length 4 _),
    leNat_leBytes header.tag.toNat_lt]

theorem fromReader_encode (ending : IoError) :
    (fromReader ending).run (header.encode ++ later) = .ok header later := by
  have hlength := header.encode_length
  rw [fromReader_of_known ending
    (by rw [List.length_append, hlength]; exact Nat.le_add_right _ _)
    (header.clientVersion_encode later) (header.clientMsgType_encode later)]
  have hheader : clientHeader (header.encode ++ later) header.version
      header.msgType = header := by
    unfold clientHeader
    rw [header.clientLength_encode later, header.clientTag_encode later,
      UInt32.ofNat_toNat, UInt32.ofNat_toNat]
  rw [hheader, List.drop_left' hlength]

end UsbMuxHeader

/-!
## Readers of chunks
-/

namespace UsbMuxHeader

def fromChunks (ending : IoError) : ChunkedReader ParseError UsbMuxHeader := do
  let buf <- ChunkedReader.readExact (.io ending) size
  let version <-
    ChunkedReader.ofExcept (UsbMuxVersion.tryFrom (leNat (field buf 4 4)))
  let msgType <-
    ChunkedReader.ofExcept (UsbMuxMsgType.tryFrom (leNat (field buf 8 4)))
  pure
    { len := .ofNat (leNat (field buf 0 4))
      version := version
      msgType := msgType
      tag := .ofNat (leNat (field buf 12 4)) }

open ChunkedReader in
theorem fromChunks_simulates (ending : IoError) :
    Simulates (fromChunks ending) (fromReader ending) := by
  apply simulates_bind (simulates_readExact _ _)
  intro buf
  apply simulates_bind (simulates_ofExcept _)
  intro version
  apply simulates_bind (simulates_ofExcept _)
  intro msgType
  exact simulates_pure _

end UsbMuxHeader

namespace UsbMuxPacket

def payloadFromChunks (F : Format) (ending : IoError) (header : UsbMuxHeader) :
    ChunkedReader ParseError UsbMuxPayload :=
  if header.len.toNat < UsbMuxHeader.size then
    ChunkedReader.throw (.invalidData
      s!"payload is shorter than the header, header length: {
        UsbMuxHeader.size}, payload length: {header.len}")
  else do
    let payload <- ChunkedReader.readExact (.io ending)
      (header.len.toNat - UsbMuxHeader.size)
    ChunkedReader.ofExcept (UsbMuxPayload.decode F payload header.version)

def fromChunks (F : Format) (ending : IoError) :
    ChunkedReader ParseError UsbMuxPacket := do
  let header <- UsbMuxHeader.fromChunks ending
  let payload <- payloadFromChunks F ending header
  pure { header := header, payload := payload }

open ChunkedReader in
theorem fromChunks_simulates (F : Format) (ending : IoError) :
    Simulates (fromChunks F ending) (fromReader F ending) := by
  apply simulates_bind (UsbMuxHeader.fromChunks_simulates ending)
  intro header
  apply simulates_bind
  · unfold payloadFromChunks readPayload
    split
    · exact simulates_throw _
    · apply simulates_bind (simulates_readExact _ _)
      intro payload
      exact simulates_ofExcept _
  · intro payload
    exact simulates_pure _

end UsbMuxPacket

/-!
## Messages
-/

def UsbMuxPayload.version : UsbMuxPayload -> UsbMuxVersion
  | plist _ => .plist
  | raw _ => .binary

/--
What is given to `encode_from`: the bytes and the version of a payload, a
message type and a tag.
-/
structure UsbMuxMessage where
  payload : UsbMuxPayload
  msgType : UsbMuxMsgType
  tag : UInt32

namespace UsbMuxMessage

variable (F : Format) (m : UsbMuxMessage)

def encode : List UInt8 :=
  UsbMuxPacket.encodeFrom F (m.payload.encode F) m.payload.version m.msgType
    m.tag

def packet : UsbMuxPacket where
  header :=
    { len := .ofNat ((m.payload.encode F).length + UsbMuxHeader.size)
      version := m.payload.version
      msgType := m.msgType
      tag := m.tag }
  payload := m.payload

/-- The payload is shorter than the length word allows. -/
def Fits : Prop :=
  (m.payload.encode F).length < 2 ^ 32 - UsbMuxHeader.size

/-- The property list of the message, if it has one, is parsed as written. -/
def Parses : Prop :=
  forall value, m.payload = .plist value ->
    F.fromBytes (F.toXmlBytes value) = .ok value

theorem encode_eq :
    m.encode F = (m.packet F).header.encode ++ m.payload.encode F := rfl

variable {F m}

theorem fits_plist {value : Value} {msgType : UsbMuxMsgType} {tag : UInt32}
    (h : (F.toXmlBytes value).length < 2 ^ 32 - UsbMuxHeader.size) :
    UsbMuxMessage.Fits F
      { payload := .plist value, msgType := msgType, tag := tag } := h

theorem len_packet (hfits : m.Fits F) :
    (m.packet F).header.len.toNat =
      (m.payload.encode F).length + UsbMuxHeader.size := by
  show (UInt32.ofNat _).toNat = _
  unfold Fits at hfits
  rw [UInt32.toNat_ofNat']
  apply Nat.mod_eq_of_lt
  show _ < 2 ^ 32
  omega

theorem len_packet_eq_length (hfits : m.Fits F) :
    (m.packet F).header.len.toNat = (m.encode F).length := by
  rw [len_packet hfits, encode_eq, List.length_append,
    UsbMuxHeader.encode_length, Nat.add_comm]

theorem decode_encode (hparses : m.Parses F) :
    UsbMuxPayload.decode F (m.payload.encode F) m.payload.version =
      .ok m.payload := by
  cases hpayload : m.payload with
  | raw bytes => rfl
  | plist value =>
      unfold UsbMuxPayload.version UsbMuxPayload.encode UsbMuxPayload.decode
      simp only [hparses value hpayload]

theorem fromReader_encode (hfits : m.Fits F) (hparses : m.Parses F)
    (ending : IoError) (later : List UInt8) :
    (UsbMuxPacket.fromReader F ending).run (m.encode F ++ later) =
      .ok (m.packet F) later := by
  have hlen := len_packet hfits
  unfold UsbMuxPacket.fromReader
  rw [encode_eq, List.append_assoc,
    Reader.run_bind_of_ok ((m.packet F).header.fromReader_encode _ ending)]
  unfold UsbMuxPacket.readPayload
  rw [hlen, if_neg (by omega), Nat.add_sub_cancel]
  refine (Reader.run_bind_of_ok (v := m.payload) ?_ _).trans rfl
  rw [Reader.run_bind_of_ok (Reader.run_readExact_append _ rfl later)]
  show (Reader.ofExcept (UsbMuxPayload.decode F _ m.payload.version)).run _ = _
  rw [decode_encode hparses]
  rfl

theorem fromReader_take (hfits : m.Fits F) (ending : IoError) {k : Nat}
    (hk : k < (m.encode F).length) :
    (UsbMuxPacket.fromReader F ending).run ((m.encode F).take k) =
      .error (.io ending) [] := by
  have hlen := len_packet hfits
  have hheader := (m.packet F).header.encode_length
  rw [encode_eq, List.length_append, hheader] at hk
  unfold UsbMuxPacket.fromReader
  rw [encode_eq]
  by_cases hsize : k < UsbMuxHeader.size
  · have hshort : (((m.packet F).header.encode ++ m.payload.encode F).take
        k).length < UsbMuxHeader.size :=
      Nat.lt_of_le_of_lt (List.length_take_le k _) hsize
    unfold UsbMuxHeader.fromReader
    exact Reader.run_bind_of_error
      (Reader.run_bind_of_error (Reader.run_readExact_of_lt _ hshort) _) _
  · rw [List.take_append, List.take_of_length_le (by omega),
      Reader.run_bind_of_ok ((m.packet F).header.fromReader_encode _ ending)]
    unfold UsbMuxPacket.readPayload
    rw [hlen, if_neg (by omega), Nat.add_sub_cancel]
    have hshort : ((m.payload.encode F).take
        (k - (m.packet F).header.encode.length)).length <
          (m.payload.encode F).length := by
      rw [List.length_take, hheader]
      omega
    exact Reader.run_bind_of_error
      (Reader.run_bind_of_error (Reader.run_readExact_of_lt _ hshort) _) _

end UsbMuxMessage

namespace UsbMuxPacket

/--
The packets of any messages come back as they were, in whatever chunks their
bytes arrive, each with its total size in the header, and then the stream ends.
-/
theorem readMany_encodeFrom (F : Format) (ending : IoError)
    (messages : List UsbMuxMessage)
    (hfits : forall m, m ∈ messages -> m.Fits F)
    (hparses : forall m, m ∈ messages -> m.Parses F) (source : List Chunk)
    (hsource : Chunk.bytes source =
      messages.flatMap (UsbMuxMessage.encode F))
    (n : Nat) (hn : messages.length < n) :
    (fromChunks F ending).readMany n source =
        (messages.map (UsbMuxMessage.packet F),
          some (.error (.io ending) [])) ∧
      forall m, m ∈ messages ->
        (m.packet F).header.len.toNat = (m.encode F).length := by
  constructor
  · let encodePacket : UsbMuxPacket -> List UInt8 := fun packet =>
      packet.header.encode ++ packet.payload.encode F
    have hread : forall packet,
        packet ∈ messages.map (UsbMuxMessage.packet F) -> forall later,
          (fromReader F ending).run (encodePacket packet ++ later) =
            .ok packet later := by
      intro packet hpacket later
      rcases List.mem_map.mp hpacket with ⟨m, hm, rfl⟩
      have hencode : encodePacket (m.packet F) = m.encode F :=
        (UsbMuxMessage.encode_eq F m).symm
      rw [hencode]
      exact UsbMuxMessage.fromReader_encode (hfits m hm) (hparses m hm)
        ending later
    apply ChunkedReader.readMany_flatMap (fromChunks_simulates F ending) rfl
      hread
    · rw [hsource, List.flatMap_map]
      rfl
    · rw [List.length_map]
      exact hn
  · intro m hm
    exact UsbMuxMessage.len_packet_eq_length (hfits m hm)

/-!
## A request and an answer of the binary protocol
-/

def listDevices : Value :=
  .dictionary [("MessageType", .string "ListDevices")]

def listDevicesXml : List UInt8 :=
  ("<?xml version=\"1.0\" encoding=\"UTF-8\"?>\n" ++
    "<!DOCTYPE plist PUBLIC \"-//Apple//DTD PLIST 1.0//EN\" " ++
    "\"http://www.apple.com/DTDs/PropertyList-1.0.dtd\">\n" ++
    "<plist version=\"1.0\">\n<dict>\n\t<key>MessageType</key>\n" ++
    "\t<string>ListDevices</string>\n</dict>\n</plist>").toList.map
      fun c => .ofNat c.toNat

theorem listDevicesXml_length : listDevicesXml.length = 241 := by
  unfold listDevicesXml
  simp only [List.length_map, String.toList_append, List.length_append]
  rfl

def listDevicesFormat : Format where
  fromBytes bytes :=
    if bytes = listDevicesXml then .ok listDevices
    else .error ⟨"unexpected end of file"⟩
  toXmlBytes _ := listDevicesXml

theorem toXmlBytes_length (value : Value) :
    (listDevicesFormat.toXmlBytes value).length = 241 := by
  simp only [listDevicesFormat, listDevicesXml_length]

def exchange : List UsbMuxMessage :=
  [{ payload := .plist listDevices, msgType := .messagePlist, tag := 1 },
    { payload := .raw [0, 0, 0, 0], msgType := .result, tag := 2 }]

def exchangeBytes : List UInt8 :=
  exchange.flatMap (UsbMuxMessage.encode listDevicesFormat)

theorem size_le_exchangeBytes :
    UsbMuxHeader.size <= exchangeBytes.length := by
  unfold exchangeBytes exchange
  rw [List.flatMap_cons, UsbMuxMessage.encode_eq, List.length_append,
    List.length_append, UsbMuxHeader.encode_length, Nat.add_assoc]
  exact Nat.le_add_right _ _

def exchangeChunks : List Chunk :=
  [⟨exchangeBytes.take 10, by
      apply List.ne_nil_of_length_pos
      rw [List.length_take]
      exact Nat.lt_min.mpr ⟨by decide,
        Nat.lt_of_lt_of_le (by decide) size_le_exchangeBytes⟩⟩,
    ⟨exchangeBytes.drop 10, by
      apply List.ne_nil_of_length_pos
      rw [List.length_drop]
      exact Nat.sub_pos_of_lt
        (Nat.lt_of_lt_of_le (by decide) size_le_exchangeBytes)⟩]

theorem bytes_exchangeChunks : Chunk.bytes exchangeChunks = exchangeBytes := by
  show exchangeBytes.take 10 ++ (exchangeBytes.drop 10 ++ []) = exchangeBytes
  rw [List.append_nil, List.take_append_drop]

theorem fits_exchange {m : UsbMuxMessage} (hm : m ∈ exchange) :
    m.Fits listDevicesFormat := by
  have hxml : (listDevicesFormat.toXmlBytes listDevices).length <
      2 ^ 32 - UsbMuxHeader.size := by
    rw [toXmlBytes_length]
    decide
  rcases List.mem_pair.mp hm with rfl | rfl
  · exact UsbMuxMessage.fits_plist hxml
  · show 4 < 2 ^ 32 - UsbMuxHeader.size
    decide

theorem parses_exchange {m : UsbMuxMessage} (hm : m ∈ exchange) :
    m.Parses listDevicesFormat := by
  intro value hvalue
  rcases List.mem_pair.mp hm with rfl | rfl
  · cases hvalue
    unfold listDevicesFormat
    simp only [if_true]
  · cases hvalue

theorem readMany_encodeFrom_exchange :
    (fromChunks listDevicesFormat
        { kind := .unexpectedEof, message := "early eof" }).readMany 3
          exchangeChunks =
        (exchange.map (UsbMuxMessage.packet listDevicesFormat),
          some (.error (.io
            { kind := .unexpectedEof, message := "early eof" }) [])) ∧
      forall m, m ∈ exchange ->
        (m.packet listDevicesFormat).header.len.toNat =
          (m.encode listDevicesFormat).length :=
  readMany_encodeFrom listDevicesFormat
    { kind := .unexpectedEof, message := "early eof" } exchange
    (fun _ hm => fits_exchange hm) (fun _ hm => parses_exchange hm)
    exchangeChunks bytes_exchangeChunks 3 (by decide)

end UsbMuxPacket

end Parser
end Rusbmux
