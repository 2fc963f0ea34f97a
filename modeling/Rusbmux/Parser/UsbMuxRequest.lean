import Rusbmux.Foundation.ByteReader
import Rusbmux.Plist.Value

/-!
# Requests

The requests a client sends as property lists.  The writer is the source's, key
by key; the reader is what the derive attributes of the request types document:
the variant is named by `MessageType`, the fields of the variant are taken in
the order of the dictionary, missing ones are looked for in the order of the
declaration, and the common fields are read from what is left.

A date or a uid is not a value of any field.
-/

namespace Rusbmux
namespace Parser

open Plist

/-!
## Types
-/

structure UsbMuxCommon where
  bundleId : Option String := none
  clientVersionString : Option String := none
  connType : Option UInt8 := none
  processId : Option UInt32 := none
  progName : Option String := none
  libusbmuxVersion : Option UInt8 := none
deriving DecidableEq, Repr

structure IpFormat (Ip : Type) where
  toString : Ip -> String
  parse : String -> Option Ip
  parse_toString : forall ip, parse (toString ip) = some ip

inductive UsbMuxRequest (Ip : Type) where
  | listen (common : UsbMuxCommon)
  | listDevices (common : UsbMuxCommon)
  | listListeners (common : UsbMuxCommon)
  | readBUID (common : UsbMuxCommon)
  | readPairRecord (common : UsbMuxCommon) (pairRecordId : String)
  | savePairRecord (common : UsbMuxCommon) (pairRecordId : String)
      (pairRecordData : List UInt8) (deviceId : Option UInt64)
  | deletePairRecord (common : UsbMuxCommon) (pairRecordId : String)
  | connect (common : UsbMuxCommon) (deviceId : UInt64) (port : UInt16)
  | addDevice (common : UsbMuxCommon) (ip : Ip) (udid : String) (force : Bool)
deriving DecidableEq, Repr

namespace UsbMuxRequest

def common {Ip : Type} : UsbMuxRequest Ip -> UsbMuxCommon
  | listen common | listDevices common | listListeners common
  | readBUID common | readPairRecord common _ | savePairRecord common _ _ _
  | deletePairRecord common _ | connect common _ _ | addDevice common _ _ _ =>
      common

end UsbMuxRequest

/-!
## Writing
-/

abbrev Entries : Type :=
  List (String × Value)

def unsigned8 (n : UInt8) : Value :=
  .integer (.ofNat n.toNat (Nat.lt_trans n.toNat_lt (by decide)))

def unsigned16 (n : UInt16) : Value :=
  .integer (.ofNat n.toNat (Nat.lt_trans n.toNat_lt (by decide)))

def unsigned32 (n : UInt32) : Value :=
  .integer (.ofNat n.toNat (Nat.lt_trans n.toNat_lt (by decide)))

/-- The macro that writes dictionaries casts a word of 64 bits to `i64`. -/
def unsigned64 (n : UInt64) : Value :=
  .integer (.ofBits n)

def optionalEntry {alpha : Type} (key : String) (toValue : alpha -> Value) :
    Option alpha -> Entries
  | none => []
  | some v => [(key, toValue v)]

namespace UsbMuxRequest

variable {Ip : Type}

def encodeCommon (common : UsbMuxCommon) : Entries :=
  optionalEntry "BundleID" .string common.bundleId ++
    (optionalEntry "ClientVersionString" .string common.clientVersionString ++
      (optionalEntry "ConnType" unsigned8 common.connType ++
        (optionalEntry "ProcessID" unsigned32 common.processId ++
          (optionalEntry "ProgramName" .string common.progName ++
            optionalEntry "kLibUSBMuxVersion" unsigned8
              common.libusbmuxVersion))))

def messageType : UsbMuxRequest Ip -> String
  | listen _ => "Listen"
  | listDevices _ => "ListDevices"
  | listListeners _ => "ListListeners"
  | readBUID _ => "ReadBUID"
  | readPairRecord _ _ => "ReadPairRecord"
  | savePairRecord _ _ _ _ => "SavePairRecord"
  | deletePairRecord _ _ => "DeletePairRecord"
  | connect _ _ _ => "Connect"
  | addDevice _ _ _ _ => "AddDevice"

def ownEntries (A : IpFormat Ip) : UsbMuxRequest Ip -> Entries
  | listen _ | listDevices _ | listListeners _ | readBUID _ => []
  | readPairRecord _ pairRecordId | deletePairRecord _ pairRecordId =>
      [("PairRecordID", .string pairRecordId)]
  | savePairRecord _ pairRecordId pairRecordData deviceId =>
      ("PairRecordID", .string pairRecordId) ::
        ("PairRecordData", .data pairRecordData) ::
          optionalEntry "DeviceID" unsigned64 deviceId
  | connect _ deviceId port =>
      [("DeviceID", unsigned64 deviceId), ("PortNumber", unsigned16 port)]
  | addDevice _ ip udid force =>
      [("IP", .string (A.toString ip)), ("UDID", .string udid),
        ("Force", .boolean force)]

def intoPlist (A : IpFormat Ip) (request : UsbMuxRequest Ip) : Value :=
  .dictionary (("MessageType", .string request.messageType) ::
    (request.ownEntries A ++ encodeCommon request.common))

end UsbMuxRequest

/-!
## Errors of reading
-/

inductive DecodeError where
  | missingField (field : String)
  | duplicateField (field : String)
  | unknownVariant (variant : String)
  | invalidType (unexpected expected : String)
  | invalidValue (unexpected expected : String)
  | custom (message : String)
deriving DecidableEq, Repr

namespace DecodeError

def text : DecodeError -> String
  | missingField field => s!"missing field `{field}`"
  | duplicateField field => s!"duplicate field `{field}`"
  | unknownVariant variant =>
      s!"unknown variant `{variant}`, expected one of `Listen`, `ListDevices`, " ++
        "`ListListeners`, `ReadBUID`, `ReadPairRecord`, `SavePairRecord`, " ++
        "`DeletePairRecord`, `Connect`, `AddDevice`"
  | invalidType unexpected expected =>
      s!"invalid type: {unexpected}, expected {expected}"
  | invalidValue unexpected expected =>
      s!"invalid value: {unexpected}, expected {expected}"
  | custom message => message

end DecodeError

def debugChar (c : Char) : String :=
  if c = '\t' then "\\t"
  else if c = '\r' then "\\r"
  else if c = '\n' then "\\n"
  else if c = '\"' then "\\\""
  else if c = '\\' then "\\\\"
  else if c = '\x00' then "\\0"
  else if c.toNat < 0x20 ∨ c.toNat = 0x7f then
    "\\u" ++ "\x7b" ++ String.ofList (Nat.toDigits 16 c.toNat) ++ "\x7d"
  else c.toString

def debugString (text : String) : String :=
  "\"" ++ String.join (text.toList.map debugChar) ++ "\""

def withDecimalPoint (number : String) : String :=
  if number.contains '.' || number ∈ ["inf", "-inf", "NaN"] then number
  else number ++ ".0"

def unexpected : Value -> String
  | .array _ => "sequence"
  | .dictionary _ => "map"
  | .boolean b => s!"boolean `{b}`"
  | .data _ => "byte array"
  | .date _ | .uid _ => "enum"
  | .real text => s!"floating point `{withDecimalPoint text}`"
  | .integer n => s!"integer `{n.value}`"
  | .string text => s!"string {debugString text}"

abbrev Decoder (alpha : Type) : Type :=
  Value -> Except DecodeError alpha

/-!
## Values of fields
-/

def decodeString : Decoder String
  | .string text => .ok text
  | .data bytes =>
      match String.fromUTF8? ⟨bytes.toArray⟩ with
      | some text => .ok text
      | none => .error (.invalidValue "byte array" "a string")
  | v => .error (.invalidType (unexpected v) "a string")

def decodeUnsigned {alpha : Type} (bound : Nat) (ofNat : Nat -> alpha)
    (expected : String) : Decoder alpha
  | .integer n =>
      if 0 <= n.value ∧ n.value < bound then .ok (ofNat n.value.toNat)
      else .error (.invalidValue (unexpected (.integer n)) expected)
  | v => .error (.invalidType (unexpected v) expected)

def decodeU8 : Decoder UInt8 :=
  decodeUnsigned (2 ^ 8) .ofNat "u8"

def decodeU32 : Decoder UInt32 :=
  decodeUnsigned (2 ^ 32) .ofNat "u32"

def decodeU64 : Decoder UInt64 :=
  decodeUnsigned (2 ^ 64) .ofNat "u64"

def decodeData : Decoder (List UInt8)
  | .data bytes => .ok bytes
  | v => .error (.invalidType (unexpected v) "a byte array")

def decodeBool : Decoder Bool
  | .boolean b => .ok b
  | v => .error (.invalidType (unexpected v) "a boolean")

def decodeIp {Ip : Type} (A : IpFormat Ip) : Decoder Ip
  | .string text =>
      match A.parse text with
      | some ip => .ok ip
      | none => .error (.custom "invalid IP address syntax")
  | v => .error (.invalidType (unexpected v) "IP address")

def toBe (n : UInt16) : UInt16 :=
  .ofNat (n.toNat % 256 * 256 + n.toNat / 256)

def deserializePortNumber : Decoder UInt16
  | v =>
      match v.asUnsignedInteger with
      | some ui => .ok (toBe (.ofNat ui))
      | none =>
          match v.asSignedInteger with
          | some si => .ok (toBe (.ofNat (si % 2 ^ 16).toNat))
          | none =>
              .error (.custom
                "PortNumber is neither a signed number nor an unsigned number")

/-!
## The variant
-/

inductive Variant where
  | listen
  | listDevices
  | listListeners
  | readBUID
  | readPairRecord
  | savePairRecord
  | deletePairRecord
  | connect
  | addDevice
deriving DecidableEq, Repr

namespace Variant

def all : List Variant :=
  [listen, listDevices, listListeners, readBUID, readPairRecord, savePairRecord,
    deletePairRecord, connect, addDevice]

def name : Variant -> String
  | listen => "Listen"
  | listDevices => "ListDevices"
  | listListeners => "ListListeners"
  | readBUID => "ReadBUID"
  | readPairRecord => "ReadPairRecord"
  | savePairRecord => "SavePairRecord"
  | deletePairRecord => "DeletePairRecord"
  | connect => "Connect"
  | addDevice => "AddDevice"

def decode : Decoder Variant
  | .string text =>
      match all.find? (fun variant => variant.name = text) with
      | some variant => .ok variant
      | none => .error (.unknownVariant text)
  | .data bytes =>
      match all.find? (fun variant => variant.name.toUTF8.toList = bytes) with
      | some variant => .ok variant
      | none => .error (.unknownVariant "bytes")
  | .integer n =>
      match n.asUnsigned with
      | none => .error (.invalidType (unexpected (.integer n)) "variant identifier")
      | some index =>
          match all[index]? with
          | some variant => .ok variant
          | none =>
              .error (.invalidValue (unexpected (.integer n))
                "variant index 0 <= i < 9")
  | v => .error (.invalidType (unexpected v) "variant identifier")

end Variant

/-!
## Own fields
-/

inductive Slot where
  | pairRecordId
  | pairRecordData
  | deviceId
  | port
  | ip
  | udid
  | force
deriving DecidableEq, Repr

namespace Slot

def keys : Slot -> List String
  | pairRecordId => ["PairRecordID"]
  | pairRecordData => ["PairRecordData"]
  | deviceId => ["DeviceID"]
  | port => ["PortNumber"]
  | ip => ["ip", "IP", "IPAddress"]
  | udid => ["udid", "UDID", "SerialNumber"]
  | force => ["force", "Force"]

end Slot

namespace Variant

def slots : Variant -> List Slot
  | listen | listDevices | listListeners | readBUID => []
  | readPairRecord | deletePairRecord => [.pairRecordId]
  | savePairRecord => [.pairRecordId, .pairRecordData, .deviceId]
  | connect => [.deviceId, .port]
  | addDevice => [.ip, .udid, .force]

def slotOf (variant : Variant) (key : String) : Option Slot :=
  variant.slots.find? fun slot => key ∈ slot.keys

end Variant

structure OwnFields (Ip : Type) where
  pairRecordId : Option String := none
  pairRecordData : Option (List UInt8) := none
  deviceId : Option UInt64 := none
  port : Option UInt16 := none
  ip : Option Ip := none
  udid : Option String := none
  force : Option Bool := none

def once {alpha : Type} (field : String) (old : Option alpha)
    (decoder : Decoder alpha) (v : Value) : Except DecodeError (Option alpha) :=
  match old with
  | some _ => .error (.duplicateField field)
  | none => (decoder v).map some

namespace OwnFields

variable {Ip : Type}

def fill (A : IpFormat Ip) (fields : OwnFields Ip) (v : Value) :
    Slot -> Except DecodeError (OwnFields Ip)
  | .pairRecordId => do
      let pairRecordId <- once "PairRecordID" fields.pairRecordId decodeString v
      pure { fields with pairRecordId := pairRecordId }
  | .pairRecordData => do
      let pairRecordData <-
        once "PairRecordData" fields.pairRecordData decodeData v
      pure { fields with pairRecordData := pairRecordData }
  | .deviceId => do
      let deviceId <- once "DeviceID" fields.deviceId decodeU64 v
      pure { fields with deviceId := deviceId }
  | .port => do
      let port <- once "PortNumber" fields.port deserializePortNumber v
      pure { fields with port := port }
  | .ip => do
      let ip <- once "ip" fields.ip (decodeIp A) v
      pure { fields with ip := ip }
  | .udid => do
      let udid <- once "udid" fields.udid decodeString v
      pure { fields with udid := udid }
  | .force => do
      let force <- once "force" fields.force decodeBool v
      pure { fields with force := force }

/-- Read the own fields of a variant and keep the other entries. -/
def scan (A : IpFormat Ip) (variant : Variant) (fields : OwnFields Ip) :
    Entries -> Except DecodeError (OwnFields Ip × Entries)
  | [] => .ok (fields, [])
  | (key, v) :: rest =>
      match variant.slotOf key with
      | some slot => do
          let fields <- fill A fields v slot
          scan A variant fields rest
      | none => do
          let (fields, others) <- scan A variant fields rest
          pure (fields, (key, v) :: others)

end OwnFields

/-!
## Common fields
-/

namespace UsbMuxCommon

def fill (common : UsbMuxCommon) (v : Value) :
    String -> Except DecodeError UsbMuxCommon
  | "BundleID" => do
      let bundleId <- once "BundleID" common.bundleId decodeString v
      pure { common with bundleId := bundleId }
  | "ClientVersionString" => do
      let clientVersionString <- once "ClientVersionString"
        common.clientVersionString decodeString v
      pure { common with clientVersionString := clientVersionString }
  | "ConnType" => do
      let connType <- once "ConnType" common.connType decodeU8 v
      pure { common with connType := connType }
  | "ProcessID" => do
      let processId <- once "ProcessID" common.processId decodeU32 v
      pure { common with processId := processId }
  | "ProgName" => do
      let progName <- once "ProgName" common.progName decodeString v
      pure { common with progName := progName }
  | "kLibUSBMuxVersion" => do
      let libusbmuxVersion <-
        once "kLibUSBMuxVersion" common.libusbmuxVersion decodeU8 v
      pure { common with libusbmuxVersion := libusbmuxVersion }
  | _ => .ok common

def scan (common : UsbMuxCommon) : Entries -> Except DecodeError UsbMuxCommon
  | [] => .ok common
  | (key, v) :: rest => do
      let common <- fill common v key
      scan common rest

end UsbMuxCommon

/-!
## Reading
-/

def required {alpha : Type} (field : String) :
    Option alpha -> Except DecodeError alpha
  | some v => .ok v
  | none => .error (.missingField field)

namespace UsbMuxRequest

variable {Ip : Type}

def takeTag (entries : Entries) : Except DecodeError (Value × Entries) :=
  match entries.filter (fun entry => entry.fst = "MessageType") with
  | [] => .error (.missingField "MessageType")
  | [(_, tag)] =>
      .ok (tag, entries.filter fun entry => entry.fst ≠ "MessageType")
  | _ => .error (.duplicateField "MessageType")

def build (fields : OwnFields Ip) (others : Entries) :
    Variant -> Except DecodeError (UsbMuxRequest Ip)
  | .listen => do
      let common <- UsbMuxCommon.scan {} others
      pure (.listen common)
  | .listDevices => do
      let common <- UsbMuxCommon.scan {} others
      pure (.listDevices common)
  | .listListeners => do
      let common <- UsbMuxCommon.scan {} others
      pure (.listListeners common)
  | .readBUID => do
      let common <- UsbMuxCommon.scan {} others
      pure (.readBUID common)
  | .readPairRecord => do
      let pairRecordId <- required "PairRecordID" fields.pairRecordId
      let common <- UsbMuxCommon.scan {} others
      pure (.readPairRecord common pairRecordId)
  | .savePairRecord => do
      let pairRecordId <- required "PairRecordID" fields.pairRecordId
      let pairRecordData <- required "PairRecordData" fields.pairRecordData
      let common <- UsbMuxCommon.scan {} others
      pure (.savePairRecord common pairRecordId pairRecordData fields.deviceId)
  | .deletePairRecord => do
      let pairRecordId <- required "PairRecordID" fields.pairRecordId
      let common <- UsbMuxCommon.scan {} others
      pure (.deletePairRecord common pairRecordId)
  | .connect => do
      let deviceId <- required "DeviceID" fields.deviceId
      let port <- required "PortNumber" fields.port
      let common <- UsbMuxCommon.scan {} others
      pure (.connect common deviceId port)
  | .addDevice => do
      let ip <- required "ip" fields.ip
      let udid <- required "udid" fields.udid
      let force <- required "force" fields.force
      let common <- UsbMuxCommon.scan {} others
      pure (.addDevice common ip udid force)

def fromPlist (A : IpFormat Ip) : Decoder (UsbMuxRequest Ip)
  | .dictionary entries => do
      let (tag, entries) <- takeTag entries
      let variant <- Variant.decode tag
      let (fields, others) <- OwnFields.scan A variant {} entries
      build fields others variant
  | .array [] => .error (.missingField "MessageType")
  | .array (tag :: _) => do
      let variant <- Variant.decode tag
      .error (.invalidType "sequence"
        s!"struct variant UsbMuxRequest::{variant.name}")
  | v =>
      .error (.invalidType (unexpected v)
        "internally tagged enum UsbMuxRequest")

end UsbMuxRequest

end Parser
end Rusbmux
