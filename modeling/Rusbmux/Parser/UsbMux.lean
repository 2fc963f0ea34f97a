import Rusbmux.Foundation.ByteReader
import Rusbmux.Parser.Error
import Rusbmux.Plist.Value

/-!
# Client packets

The packets exchanged with a client: a header of four little-endian words and a
payload, which is a property list or raw bytes as the version word says.  The
definitions follow the first half of `parser/usbmux.rs`.
-/

namespace Rusbmux
namespace Parser

open Foundation
open Plist

/-!
## Words
-/

inductive UsbMuxVersion where
  | binary
  | plist
deriving DecidableEq, Repr

namespace UsbMuxVersion

def toU32 : UsbMuxVersion -> Nat
  | binary => 0
  | plist => 1

def ofNat? : Nat -> Option UsbMuxVersion
  | 0 => some binary
  | 1 => some plist
  | _ => none

def tryFrom (value : Nat) : Except ParseError UsbMuxVersion :=
  match ofNat? value with
  | some version => .ok version
  | none =>
      .error (.invalidData s!"`{value}` is not a valid usbmux packet version")

end UsbMuxVersion

inductive UsbMuxMsgType where
  | result
  | connect
  | listen
  | deviceAdd
  | deviceRemove
  | devicePaired
  | messagePlist
deriving DecidableEq, Repr

namespace UsbMuxMsgType

def toU32 : UsbMuxMsgType -> Nat
  | result => 1
  | connect => 2
  | listen => 3
  | deviceAdd => 4
  | deviceRemove => 5
  | devicePaired => 6
  | messagePlist => 8

def ofNat? : Nat -> Option UsbMuxMsgType
  | 1 => some result
  | 2 => some connect
  | 3 => some listen
  | 4 => some deviceAdd
  | 5 => some deviceRemove
  | 6 => some devicePaired
  | 8 => some messagePlist
  | _ => none

def tryFrom (value : Nat) : Except ParseError UsbMuxMsgType :=
  match ofNat? value with
  | some msgType => .ok msgType
  | none =>
      .error (.invalidData s!"`{value}` is not a valid usbmux message type")

end UsbMuxMsgType

inductive UsbMuxResult where
  | ok
  | badCommand
  | badDeviceOrNoSuchFile
  | connectionRefused
  | badVersion
  | invalidInput
deriving DecidableEq, Repr

namespace UsbMuxResult

def toU16 : UsbMuxResult -> Nat
  | ok => 0
  | badCommand => 1
  | badDeviceOrNoSuchFile => 2
  | connectionRefused => 3
  | badVersion => 6
  | invalidInput => 22

end UsbMuxResult

/-!
## Headers
-/

structure UsbMuxHeader where
  len : UInt32
  version : UsbMuxVersion
  msgType : UsbMuxMsgType
  tag : UInt32
deriving DecidableEq, Repr

namespace UsbMuxHeader

def size : Nat := 16

def encode (header : UsbMuxHeader) : List UInt8 :=
  leBytes 4 header.len.toNat ++ leBytes 4 header.version.toU32 ++
    leBytes 4 header.msgType.toU32 ++ leBytes 4 header.tag.toNat

def fromReader (ending : IoError) : Reader ParseError UsbMuxHeader := do
  let buf <- Reader.readExact (.io ending) size
  let version <- Reader.ofExcept (UsbMuxVersion.tryFrom (leNat (field buf 4 4)))
  let msgType <- Reader.ofExcept (UsbMuxMsgType.tryFrom (leNat (field buf 8 4)))
  pure
    { len := .ofNat (leNat (field buf 0 4))
      version := version
      msgType := msgType
      tag := .ofNat (leNat (field buf 12 4)) }

end UsbMuxHeader

/-!
## Payloads
-/

inductive UsbMuxPayload where
  | plist (value : Value)
  | raw (bytes : List UInt8)

namespace UsbMuxPayload

def asPlist : UsbMuxPayload -> Option Value
  | plist value => some value
  | raw _ => none

def encode (F : Format) : UsbMuxPayload -> List UInt8
  | plist value => F.toXmlBytes value
  | raw bytes => bytes

def decode (F : Format) (payload : List UInt8) :
    UsbMuxVersion -> Except ParseError UsbMuxPayload
  | .plist =>
      match F.fromBytes payload with
      | .ok value => .ok (plist value)
      | .error err => .error (.plist err)
  | .binary => .ok (raw payload)

theorem decode_error_isIo (F : Format) {payload : List UInt8}
    {version : UsbMuxVersion} {e : ParseError}
    (h : decode F payload version = .error e) : e.isIo = false := by
  cases version with
  | binary => cases h
  | plist =>
      unfold decode at h
      cases hread : F.fromBytes payload with
      | error err =>
          rw [hread] at h
          cases h
          rfl
      | ok value =>
          rw [hread] at h
          cases h

end UsbMuxPayload

/-!
## Packets
-/

structure UsbMuxPacket where
  header : UsbMuxHeader
  payload : UsbMuxPayload

namespace UsbMuxPacket

def encode (F : Format) (packet : UsbMuxPacket) : List UInt8 :=
  packet.header.encode ++ packet.payload.encode F

def encodeFrom (F : Format) (payload : List UInt8) (version : UsbMuxVersion)
    (msgType : UsbMuxMsgType) (tag : UInt32) : List UInt8 :=
  encode F
    { header :=
        { len := .ofNat (payload.length + UsbMuxHeader.size)
          version := version
          msgType := msgType
          tag := tag }
      payload := .raw payload }

def readPayload (F : Format) (ending : IoError) (header : UsbMuxHeader) :
    Reader ParseError UsbMuxPayload :=
  if header.len.toNat < UsbMuxHeader.size then
    Reader.throw (.invalidData
      s!"payload is shorter than the header, header length: {
        UsbMuxHeader.size}, payload length: {header.len}")
  else do
    let payload <- Reader.readExact (.io ending)
      (header.len.toNat - UsbMuxHeader.size)
    Reader.ofExcept (UsbMuxPayload.decode F payload header.version)

def fromReader (F : Format) (ending : IoError) :
    Reader ParseError UsbMuxPacket := do
  let header <- UsbMuxHeader.fromReader ending
  let payload <- readPayload F ending header
  pure { header := header, payload := payload }

end UsbMuxPacket

/-!
## The words of a client frame
-/

def clientLength (s : List UInt8) : Nat :=
  leNat (field s 0 4)

def clientVersion (s : List UInt8) : Option UsbMuxVersion :=
  UsbMuxVersion.ofNat? (leNat (field s 4 4))

def clientMsgType (s : List UInt8) : Option UsbMuxMsgType :=
  UsbMuxMsgType.ofNat? (leNat (field s 8 4))

def clientHeader (s : List UInt8) (version : UsbMuxVersion)
    (msgType : UsbMuxMsgType) : UsbMuxHeader where
  len := .ofNat (clientLength s)
  version := version
  msgType := msgType
  tag := .ofNat (leNat (field s 12 4))

theorem clientHeader_len (s : List UInt8) (version : UsbMuxVersion)
    (msgType : UsbMuxMsgType) :
    (clientHeader s version msgType).len.toNat = clientLength s := by
  have hlt : clientLength s < 256 ^ 4 := leNat_field_lt s 0 4
  show (UInt32.ofNat (clientLength s)).toNat = _
  rw [UInt32.toNat_ofNat']
  exact Nat.mod_eq_of_lt hlt

namespace UsbMuxHeader

theorem tryFrom_version (s : List UInt8) :
    UsbMuxVersion.tryFrom (leNat (field (s.take size) 4 4)) =
      match clientVersion s with
      | some version => .ok version
      | none => .error (.invalidData
          s!"`{leNat (field s 4 4)}` is not a valid usbmux packet version") := by
  rw [field_take (by decide)]
  rfl

theorem tryFrom_msgType (s : List UInt8) :
    UsbMuxMsgType.tryFrom (leNat (field (s.take size) 8 4)) =
      match clientMsgType s with
      | some msgType => .ok msgType
      | none => .error (.invalidData
          s!"`{leNat (field s 8 4)}` is not a valid usbmux message type") := by
  rw [field_take (by decide)]
  rfl

theorem fromReader_of_unknown (ending : IoError) {s : List UInt8}
    (hlen : size <= s.length)
    (hunknown : clientVersion s = none ∨ clientMsgType s = none) :
    exists e : ParseError, e.isIo = false ∧
      (fromReader ending).run s = .error e (s.drop size) := by
  unfold fromReader
  rw [Reader.run_bind_of_ok (Reader.run_readExact_of_le _ hlen),
    tryFrom_version, tryFrom_msgType]
  cases hversion : clientVersion s with
  | none => exact ⟨_, rfl, rfl⟩
  | some version =>
      cases hmsgType : clientMsgType s with
      | none => exact ⟨_, rfl, rfl⟩
      | some msgType =>
          rw [hversion, hmsgType] at hunknown
          simp at hunknown

theorem fromReader_of_known (ending : IoError) {s : List UInt8}
    {version : UsbMuxVersion} {msgType : UsbMuxMsgType}
    (hlen : size <= s.length) (hversion : clientVersion s = some version)
    (hmsgType : clientMsgType s = some msgType) :
    (fromReader ending).run s =
      .ok (clientHeader s version msgType) (s.drop size) := by
  unfold fromReader
  rw [Reader.run_bind_of_ok (Reader.run_readExact_of_le _ hlen),
    tryFrom_version, tryFrom_msgType, hversion, hmsgType,
    Reader.run_bind_of_ok (Reader.run_ofExcept_ok _ _),
    Reader.run_bind_of_ok (Reader.run_ofExcept_ok _ _), Reader.run_pure,
    field_take (by decide), field_take (by decide)]
  rfl

end UsbMuxHeader

/-!
## Complete frames
-/

/--
A client packet whose length word is its length, whatever its version, its
message type and its payload are.
-/
structure ClientFrame where
  bytes : List UInt8
  length_eq : clientLength bytes = bytes.length
  size_le : UsbMuxHeader.size <= bytes.length

namespace ClientFrame

/-- The header words are known, or there is nothing after the header. -/
def ReadToEnd (f : ClientFrame) : Prop :=
  ((exists version, clientVersion f.bytes = some version) ∧
      exists msgType, clientMsgType f.bytes = some msgType) ∨
    f.bytes.length = UsbMuxHeader.size

variable (f : ClientFrame) (later : List UInt8)

theorem size_le_append : UsbMuxHeader.size <= (f.bytes ++ later).length := by
  rw [List.length_append]
  exact Nat.le_trans f.size_le (Nat.le_add_right _ _)

theorem field_append {offset width : Nat}
    (h : offset + width <= UsbMuxHeader.size) :
    field (f.bytes ++ later) offset width = field f.bytes offset width :=
  field_append_of_le (Nat.le_trans h f.size_le) later

theorem clientLength_append :
    clientLength (f.bytes ++ later) = f.bytes.length := by
  rw [← f.length_eq]
  exact congrArg leNat (f.field_append later (by decide))

theorem clientVersion_append :
    clientVersion (f.bytes ++ later) = clientVersion f.bytes := by
  unfold clientVersion
  rw [f.field_append later (by decide)]

theorem clientMsgType_append :
    clientMsgType (f.bytes ++ later) = clientMsgType f.bytes := by
  unfold clientMsgType
  rw [f.field_append later (by decide)]

theorem fromReader_of_known (F : Format) (ending : IoError)
    {version : UsbMuxVersion} {msgType : UsbMuxMsgType}
    (hversion : clientVersion f.bytes = some version)
    (hmsgType : clientMsgType f.bytes = some msgType) :
    (exists packet, (UsbMuxPacket.fromReader F ending).run (f.bytes ++ later) =
        .ok packet later) ∨
      exists e : ParseError, e.isIo = false ∧
        (UsbMuxPacket.fromReader F ending).run (f.bytes ++ later) =
          .error e later := by
  have hheader := UsbMuxHeader.fromReader_of_known ending
    (f.size_le_append later)
    (by rw [f.clientVersion_append, hversion])
    (by rw [f.clientMsgType_append, hmsgType])
  have hlen : (clientHeader (f.bytes ++ later) version msgType).len.toNat =
      f.bytes.length := by
    rw [clientHeader_len, f.clientLength_append]
  have hsize := f.size_le
  have hdrop : ((f.bytes ++ later).drop UsbMuxHeader.size).drop
      (f.bytes.length - UsbMuxHeader.size) = later := by
    rw [List.drop_drop, Nat.add_sub_of_le hsize, List.drop_left]
  have hread := Reader.run_readExact_of_le (ParseError.io ending)
    (show f.bytes.length - UsbMuxHeader.size <=
        ((f.bytes ++ later).drop UsbMuxHeader.size).length by
      rw [List.length_drop, List.length_append]
      omega)
  rw [hdrop] at hread
  unfold UsbMuxPacket.fromReader
  rw [Reader.run_bind_of_ok hheader]
  unfold UsbMuxPacket.readPayload
  rw [hlen, if_neg (Nat.not_lt.mpr hsize)]
  cases hdecode : UsbMuxPayload.decode F
      (((f.bytes ++ later).drop UsbMuxHeader.size).take
        (f.bytes.length - UsbMuxHeader.size))
      (clientHeader (f.bytes ++ later) version msgType).version with
  | error e =>
      refine Or.inr ⟨e, UsbMuxPayload.decode_error_isIo F hdecode, ?_⟩
      refine Reader.run_bind_of_error ?_ _
      rw [Reader.run_bind_of_ok hread, hdecode]
      rfl
  | ok payload =>
      refine Or.inl ⟨⟨clientHeader (f.bytes ++ later) version msgType, payload⟩,
        ?_⟩
      refine (Reader.run_bind_of_ok (v := payload) ?_ _).trans rfl
      rw [Reader.run_bind_of_ok hread, hdecode]
      rfl

theorem fromReader_of_unknown (F : Format) (ending : IoError)
    (hunknown : clientVersion f.bytes = none ∨ clientMsgType f.bytes = none) :
    exists e : ParseError, e.isIo = false ∧
      (UsbMuxPacket.fromReader F ending).run (f.bytes ++ later) =
        .error e ((f.bytes ++ later).drop UsbMuxHeader.size) := by
  rcases UsbMuxHeader.fromReader_of_unknown ending (f.size_le_append later)
    (by rw [f.clientVersion_append, f.clientMsgType_append]; exact hunknown)
    with ⟨e, he, hheader⟩
  refine ⟨e, he, ?_⟩
  unfold UsbMuxPacket.fromReader
  exact Reader.run_bind_of_error hheader _

end ClientFrame

end Parser
end Rusbmux
