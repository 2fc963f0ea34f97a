import Rusbmux.Foundation.Transcript
import Rusbmux.Error
import Rusbmux.Parser.UsbMux
import Rusbmux.Parser.UsbMuxRequest
import Rusbmux.Watcher.Registry

/-!
# Request handlers

What the daemon writes to a client for one packet.  The outcome of every
operation on the file system or on a device is part of the host, so that the
handlers can be run against every outcome.  The client's socket takes every
write; the bytes that a connection relays after its reply are not replies and
are left out.
-/

namespace Rusbmux
namespace Handler

open Foundation
open Rusbmux.Parser
open Rusbmux.Plist
open Rusbmux.Watcher

structure Host (Ip : Type) where
  format : Format
  addresses : IpFormat Ip
  lockdownPath : String -> String
  fsWrite : String -> List UInt8 -> Except IoError Unit
  fsRemoveFile : String -> Except IoError Unit
  fsRead : String -> Except IoError (List UInt8)
  fsTryExists : String -> Except IoError Bool
  newUuid : String
  pairingFile : List UInt8 -> Except String String
  networkAddress : Ip -> List UInt8
  nextDeviceId : UInt64
  newNetwork : NetworkDevice -> Except RusbmuxError Unit
  connectedDevices : Registry
  receiverCount : Nat
  deviceConnect : Device -> UInt16 -> Except RusbmuxError Unit
  relay : Device -> UInt16 -> Except RusbmuxError Unit
  hotplugEvents : List (DeviceEvent × Registry)

abbrev Handling (alpha : Type) : Type :=
  Transcript (List UInt8) RusbmuxError alpha

variable {Ip : Type} (host : Host Ip)

/-!
## Replies
-/

def encodeReply (tag : UInt32) (value : Value) : List UInt8 :=
  UsbMuxPacket.encodeFrom host.format (host.format.toXmlBytes value) .plist
    .messagePlist tag

def writeReply (tag : UInt32) (value : Value) : Handling Unit :=
  .send (encodeReply host tag value)

def resultValue (code : UsbMuxResult) : Value :=
  .dictionary [("MessageType", .string "Result"),
    ("Number", unsigned16 (.ofNat code.toU16))]

def sendResult (code : UsbMuxResult) (tag : UInt32) : Handling Unit :=
  writeReply host tag (resultValue code)

/-!
## Pair records
-/

def containsText (text needle : String) : Bool :=
  decide (needle.toList <:+: text.toList)

def checkPairRecordId (pairRecordId : String) : Except RusbmuxError Unit :=
  if containsText pairRecordId "/" || containsText pairRecordId "\\" ||
      containsText pairRecordId ".." then
    .error (.unexpectedPacket "Given pair record id is malformed")
  else
    .ok ()

def recordPath (pairRecordId : String) : String :=
  host.lockdownPath s!"{pairRecordId}.plist"

def pairedValue (deviceId : UInt64) : Value :=
  .dictionary [("MessageType", .string "Paired"),
    ("DeviceID", unsigned64 deviceId)]

def savePairRecord (pairRecordId : String) (pairRecordData : List UInt8)
    (deviceId : Option UInt64) (tag : UInt32) : Handling Unit := do
  .lift (checkPairRecordId pairRecordId)
  .lift ((host.fsWrite (recordPath host pairRecordId) pairRecordData).mapError
    .io)
  match deviceId with
  | some deviceId => writeReply host tag (pairedValue deviceId)
  | none => pure ()

/-- The reply to a failed operation on a record, if the error has one. -/
def replyToRecordError (isAnswered : RusbmuxError -> Bool) (tag : UInt32) :
    RusbmuxError -> Handling Unit
  | .unexpectedPacket _ => sendResult host .badCommand tag
  | err =>
      if isAnswered err then sendResult host .badDeviceOrNoSuchFile tag
      else pure ()

def isNoSuchFile : RusbmuxError -> Bool
  | .io err => err.kind = .permissionDenied || err.kind = .notFound
  | _ => false

def handleSavePairRecord (pairRecordId : String)
    (pairRecordData : List UInt8) (deviceId : Option UInt64) (tag : UInt32) :
    Handling Unit := do
  match <- Transcript.attempt
      (savePairRecord host pairRecordId pairRecordData deviceId tag) with
  | .ok () => sendResult host .ok tag
  | .error err => do
      replyToRecordError host isNoSuchFile tag err
      .fail err

def readPairRecord (pairRecordId : String) (tag : UInt32) : Handling Unit := do
  .lift (checkPairRecordId pairRecordId)
  let pairingFile <-
    .lift ((host.fsRead (recordPath host pairRecordId)).mapError .io)
  writeReply host tag (.dictionary [("PairRecordData", .data pairingFile)])

def handleReadPairRecord (pairRecordId : String) (tag : UInt32) :
    Handling Unit := do
  match <- Transcript.attempt (readPairRecord host pairRecordId tag) with
  | .ok () => pure ()
  | .error err => do
      replyToRecordError host isNoSuchFile tag err
      .fail err

def deletePairRecord (pairRecordId : String) : Handling Unit := do
  .lift (checkPairRecordId pairRecordId)
  .lift ((host.fsRemoveFile (recordPath host pairRecordId)).mapError .io)

def isNotFound : RusbmuxError -> Bool
  | .io err => err.kind = .notFound
  | _ => false

def handleDeletePairRecord (pairRecordId : String) (tag : UInt32) :
    Handling Unit := do
  match <- Transcript.attempt (deletePairRecord host pairRecordId) with
  | .ok () => sendResult host .ok tag
  | .error err => do
      replyToRecordError host isNotFound tag err
      .fail err

/-!
## The system BUID
-/

def configPath : String :=
  host.lockdownPath "SystemConfiguration.plist"

def configExists : Bool :=
  match host.fsTryExists (configPath host) with
  | .ok found => found
  | .error _ => false

def buidOf (config : Value) : Except RusbmuxError String :=
  match config.asDictionary with
  | none =>
      .error (.unexpectedPacket
        "Expected a packet with a dictionary plist payload")
  | some entries =>
      match Value.get entries "SystemBUID" with
      | none => .error (.valueNotFound .systemBUID)
      | some value =>
          match value.asString with
          | none => .error (.invalidData "SystemBUID is not a string")
          | some buid => .ok buid

def readSystemBuid : Except RusbmuxError String :=
  if !configExists host then do
    let id := host.newUuid.toUpper
    let config := host.format.toXmlBytes
      (.dictionary [("SystemBUID", .string id)])
    (host.fsWrite (configPath host) config).mapError .io
    pure id
  else do
    let bytes <- (host.fsRead (configPath host)).mapError .io
    let config <- (host.format.fromBytes bytes).mapError .plist
    buidOf config

def handleReadBuid (tag : UInt32) : Handling Unit :=
  match readSystemBuid host with
  | .ok buid => writeReply host tag (.dictionary [("BUID", .string buid)])
  | .error (.io _) => sendResult host .badDeviceOrNoSuchFile tag
  | .error err => .fail err

/-!
## Devices and listeners
-/

def shownDevices (R : Registry) : List Device :=
  R.filter fun dev => !R.isShadowed dev

def devicesPlist : Value :=
  .dictionary [("DeviceList", .array
    ((shownDevices host.connectedDevices).map Device.createDeviceAttached))]

def handleDeviceList (tag : UInt32) : Handling Unit :=
  writeReply host tag (devicesPlist host)

def listenerValue : Value :=
  .dictionary [("Blacklisted", .boolean false),
    ("ConnType", unsigned8 0),
    ("ID String", .string "unknown"),
    ("ProgName", .string "unknown")]

def handleListenersList (tag : UInt32) : Handling Unit :=
  writeReply host tag (.dictionary
    [("ListenerList",
      .array (List.replicate host.receiverCount listenerValue))])

def writeAll (tag : UInt32) : List Value -> Handling Unit
  | [] => pure ()
  | value :: rest => do
      writeReply host tag value
      writeAll tag rest

def sendCurrentlyConnected (tag : UInt32) : Handling Unit :=
  writeAll host tag
    ((shownDevices host.connectedDevices).map Device.createDeviceAttached)

def eventValue : DeviceEvent × Registry -> Option Value
  | (.attached id, R) => (R.get id).map Device.createDeviceAttached
  | (.detached id, _) =>
      some (.dictionary [("MessageType", .string "Detached"),
        ("DeviceID", unsigned64 id)])

def handleListen (tag : UInt32) : Handling Unit := do
  sendResult host .ok tag
  sendCurrentlyConnected host tag
  writeAll host tag (host.hotplugEvents.filterMap eventValue)

/-!
## Connections
-/

def connect (deviceId : UInt64) (destinationPort : UInt16) :
    Except RusbmuxError Device :=
  match host.connectedDevices.get deviceId with
  | none => .error (.deviceNotFound deviceId)
  | some device => (host.deviceConnect device destinationPort).map fun _ => device

def connectCode : RusbmuxError -> UsbMuxResult
  | .deviceNotFound _ | .ranOutOfSourcePort => .badDeviceOrNoSuchFile
  | _ => .connectionRefused

def handleConnect (deviceId : UInt64) (destinationPort : UInt16)
    (tag : UInt32) : Handling Unit :=
  match connect host deviceId destinationPort with
  | .ok device => do
      sendResult host .ok tag
      .lift (host.relay device destinationPort)
  | .error err => do
      sendResult host (connectCode err) tag
      .fail err

/-!
## Added devices
-/

def readPairing (udid : String) : Except RusbmuxError String := do
  checkPairRecordId udid
  let bytes <- (host.fsRead (recordPath host udid)).mapError .io
  (host.pairingFile bytes).mapError .idevice

def manualDevice (ip : Ip) (udid macAddress : String) : NetworkDevice where
  id := host.nextDeviceId
  udid := udid
  macAddress := macAddress
  serviceName := "manual"
  networkAddress := host.networkAddress ip

def addDevice (ip : Ip) (udid : String) (force : Bool) :
    Except RusbmuxError Unit :=
  let pairing := readPairing host udid
  let device := manualDevice host ip udid (pairing.toOption.getD "")
  (host.connectedDevices.addDevice (pairing.map fun _ => ()) device force
    (host.newNetwork device)).snd

def addDeviceCode : RusbmuxError -> UsbMuxResult
  | .io err =>
      if err.kind = .notFound || err.kind = .permissionDenied then
        .badDeviceOrNoSuchFile
      else
        .connectionRefused
  | .deviceNotFound _ => .badDeviceOrNoSuchFile
  | .idevice _ => .invalidInput
  | _ => .connectionRefused

def handleAddDevice (ip : Ip) (udid : String) (force : Bool) (tag : UInt32) :
    Handling Unit :=
  match addDevice host ip udid force with
  | .ok () => sendResult host .ok tag
  | .error err => do
      sendResult host (addDeviceCode err) tag
      .fail err

/-!
## Messages
-/

structure HandlerError where
  err : RusbmuxError
  request : Option String := none
  fatal : Bool := false

inductive ControlFlow where
  | continue
  | break
deriving DecidableEq, Repr

def requestError (err : DecodeError) : RusbmuxError :=
  let missing (field : MissingFields) : Bool :=
    containsText err.text s!"missing field `{field.debug}`"
  match [MissingFields.pairRecordID, .pairRecordData, .deviceID,
      .portNumber].find? missing with
  | some field => .valueNotFound field
  | none => .parse (.plist ⟨err.text⟩)

def requestErrorCode : RusbmuxError -> UsbMuxResult
  | .valueNotFound field => field.resultCode
  | _ => .invalidInput

def handleRequest (tag : UInt32) :
    UsbMuxRequest Ip -> Transcript (List UInt8) HandlerError ControlFlow
  | .listDevices _ => do
      (handleDeviceList host tag).mapError fun err => ⟨err, "ListDevices", false⟩
      return .continue
  | .listen _ => do
      (handleListen host tag).mapError fun err => ⟨err, "Listen", true⟩
      return .break
  | .listListeners _ => do
      (handleListenersList host tag).mapError fun err =>
        ⟨err, "ListListeners", false⟩
      return .continue
  | .readPairRecord _ pairRecordId => do
      (handleReadPairRecord host pairRecordId tag).mapError fun err =>
        ⟨err, "ReadPairRecord", false⟩
      return .continue
  | .connect _ deviceId port => do
      (handleConnect host deviceId port tag).mapError fun err =>
        ⟨err, "Connect", true⟩
      return .break
  | .readBUID _ => do
      (handleReadBuid host tag).mapError fun err => ⟨err, "ReadBUID", false⟩
      return .continue
  | .savePairRecord _ pairRecordId pairRecordData deviceId => do
      (handleSavePairRecord host pairRecordId pairRecordData deviceId
        tag).mapError fun err => ⟨err, "SavePairRecord", false⟩
      return .continue
  | .deletePairRecord _ pairRecordId => do
      (handleDeletePairRecord host pairRecordId tag).mapError fun err =>
        ⟨err, "DeletePairRecord", false⟩
      return .continue
  | .addDevice _ ip udid force => do
      (handleAddDevice host ip udid force tag).mapError fun err =>
        ⟨err, "AddDevice", false⟩
      return .continue

def handleMessage (packet : UsbMuxPacket) :
    Transcript (List UInt8) HandlerError ControlFlow :=
  let tag := packet.header.tag
  match packet.header.msgType with
  | .messagePlist =>
      match packet.payload.asPlist with
      | none =>
          .fail { err := .unexpectedPacket "expected plist payload" }
      | some payload =>
          match UsbMuxRequest.fromPlist host.addresses payload with
          | .ok request => handleRequest host tag request
          | .error err => do
              let err := requestError err
              (sendResult host (requestErrorCode err) tag).mapError
                fun err => { err := err }
              .fail { err := err }
  | _ => do
      (sendResult host .badCommand tag).mapError fun err => { err := err }
      return .continue

end Handler
end Rusbmux
