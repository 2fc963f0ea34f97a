import Rusbmux.Foundation.ChunkedReader
import Rusbmux.Handler.Replies
import Rusbmux.Parser.UsbMuxRoundTrip
import Rusbmux.Parser.UsbMuxStream
import Rusbmux.Text

/-!
# The command that adds a device

`bin/rusbmux/cli.rs` is a client of the daemon: it sends one request, waits for
one packet and turns the number of the result into the exit status of the
process.  The two ends are put together below, over sockets that may cut what is
written anywhere, fail, or be too slow for the timeout.
-/

namespace Rusbmux
namespace Cli

open Foundation
open Rusbmux.Handler
open Rusbmux.Parser
open Rusbmux.Plist

structure AddDeviceArgs (Ip : Type) where
  ip : Ip
  udid : String
  force : Bool := false
  timeout : UInt64 := 10

inductive CliError where
  | emptyUdid
  | notConnected (message : String)
  | notSent
  | timedOut (secs : UInt64)
  | notRead (err : ParseError)
  | notPlist
  | notDictionary
  | missingNumber
  | notInteger (value : Value)
  | connectionRefused
  | invalidInput

def CliError.text (ip : String) (debug : Value -> String) : CliError -> String
  | emptyUdid => "--udid must not be empty"
  | notConnected message => message
  | notSent => "failed to send AddDevice request"
  | timedOut secs =>
      s!"timed out waiting for daemon reply ({secs}s) - daemon may not have " ++
        "implemented AddDevice response or device is unreachable"
  | notRead _ => "failed to read daemon reply"
  | notPlist => "daemon replied with non-plist payload"
  | notDictionary => "reply is not a dictionary"
  | missingNumber => "reply missing 'Number' field (not a Result?)"
  | notInteger value => s!"'Number' field is not an integer: {debug value}"
  | connectionRefused =>
      s!"Connection refused (3) - daemon could not reach device at {ip}"
  | invalidInput =>
      "Invalid input (22) - daemon could not parse request/pairing file"

inductive Verdict where
  | added
  | failed (err : CliError)
  | exited (code : Nat)

def Verdict.status : Verdict -> Nat
  | added => 0
  | failed _ => 1
  | exited code => code

inductive Answer where
  | notConnected (message : String)
  | notSent
  | late
  | chunks (source : List Chunk)

/-!
## The client
-/

section client

variable {Ip : Type} (F : Format) (A : IpFormat Ip)

def packageVersion : String := "0.3.0"

def request (args : AddDeviceArgs Ip) : UsbMuxRequest Ip :=
  .addDevice
    { progName := some "rusbmux", clientVersionString := some packageVersion }
    args.ip (Text.trim args.udid) args.force

def requestMessage (args : AddDeviceArgs Ip) : UsbMuxMessage where
  payload := .plist ((request args).intoPlist A)
  msgType := .messagePlist
  tag := 1

def requestPacket (args : AddDeviceArgs Ip) : List UInt8 :=
  UsbMuxPacket.encodeFrom F (F.toXmlBytes ((request args).intoPlist A)) .plist
    .messagePlist 1

def extractResultNumber (value : Value) : Except CliError UInt16 :=
  match value.asDictionary with
  | none => .error .notDictionary
  | some entries =>
      match Value.get entries "Number" with
      | none => .error .missingNumber
      | some number =>
          match number.asUnsignedInteger with
          | some n => .ok (.ofNat n)
          | none =>
              match number.asSignedInteger with
              | some n => .ok (.ofNat (n % 2 ^ 16).toNat)
              | none => .error (.notInteger number)

def handleResult (number : UInt16) : Verdict :=
  if number = 0 then .added
  else if number = 2 then .exited 2
  else if number = 3 then .failed .connectionRefused
  else if number = 22 then .failed .invalidInput
  else .exited number.toNat

/-- What the client makes of the packet it has read. -/
def handleReply (reply : UsbMuxPacket) : Verdict :=
  match reply.payload.asPlist with
  | none => .failed .notPlist
  | some value =>
      match extractResultNumber value with
      | .error err => .failed err
      | .ok number => handleResult number

/--
The command, given what the daemon answers to the bytes it is sent; a socket
that is closed reads as `ending`.
-/
def runAddDevice (ending : IoError) (args : AddDeviceArgs Ip)
    (daemon : List UInt8 -> Answer) : Option Verdict :=
  if Text.trim args.udid = "" then some (.failed .emptyUdid)
  else
    match daemon (requestPacket F A args) with
    | .notConnected message => some (.failed (.notConnected message))
    | .notSent => some (.failed .notSent)
    | .late => some (.failed (.timedOut args.timeout))
    | .chunks source =>
        match (UsbMuxPacket.fromChunks F ending).run source with
        | .ok reply _ => some (handleReply reply)
        | .error err _ => some (.failed (.notRead err))
        | .panicked => none

end client

/-!
## The client and the daemon
-/

/-- A socket: how what is written at one end is cut at the other. -/
structure Socket where
  split : List UInt8 -> List Chunk
  bytes_split : forall bytes, Chunk.bytes (split bytes) = bytes

section exchange

variable {Ip : Type} (host : Host Ip)

def serve (ending : IoError) (source : List Chunk) : List UInt8 :=
  match (UsbMuxPacket.fromChunks host.format ending).run source with
  | .ok packet _ => (handleMessage host packet).written.flatten
  | .error _ _ => []
  | .panicked => []

/-- What becomes of an exchange on its way. -/
structure Course where
  connected : Except String Unit := .ok ()
  sent : Bool := true
  inTime : Bool := true
  arrives : Nat

/-- The daemon at the other end of two sockets, one for each direction. -/
def daemonAnswer (ending : IoError) (toDaemon fromDaemon : Socket)
    (course : Course) (bytes : List UInt8) : Answer :=
  match course.connected with
  | .error message => .notConnected message
  | .ok () =>
      if !course.sent then .notSent
      else if !course.inTime then .late
      else
        .chunks (fromDaemon.split
          ((serve host ending (toDaemon.split bytes)).take course.arrives))

/-- The whole answer comes in time. -/
def Course.Completes (course : Course) (answer : List UInt8) : Prop :=
  course.connected = .ok () ∧ course.sent = true ∧ course.inTime = true ∧
    answer.length <= course.arrives

def resultMessage (code : UsbMuxResult) (tag : UInt32) : UsbMuxMessage where
  payload := .plist (resultValue code)
  msgType := .messagePlist
  tag := tag

def refusal : UsbMuxResult -> Verdict
  | .connectionRefused => .failed .connectionRefused
  | .invalidInput => .failed .invalidInput
  | code => .exited code.toU16

def verdictOf : Except RusbmuxError Unit -> Verdict
  | .ok () => .added
  | .error err => refusal (addDeviceCode err)

/-!
### What each end reads
-/

theorem run_fromChunks_encode {F : Format} {m : UsbMuxMessage}
    (hfits : m.Fits F) (hparses : m.Parses F) (ending : IoError)
    {source : List Chunk} (hsource : Chunk.bytes source = m.encode F) :
    exists rest, (UsbMuxPacket.fromChunks F ending).run source =
      .ok (m.packet F) rest := by
  have hwhole := UsbMuxMessage.fromReader_encode hfits hparses ending []
  rw [List.append_nil, ← hsource] at hwhole
  have hjoined := UsbMuxPacket.fromChunks_simulates F ending source
  rcases ChunkedReader.joined_eq_ok (hjoined.trans hwhole) with
    ⟨rest, hrun, -⟩
  exact ⟨rest, hrun⟩

theorem run_fromChunks_take {F : Format} {m : UsbMuxMessage}
    (hfits : m.Fits F) (ending : IoError) {k : Nat}
    (hk : k < (m.encode F).length) {source : List Chunk}
    (hsource : Chunk.bytes source = (m.encode F).take k) :
    exists rest, (UsbMuxPacket.fromChunks F ending).run source =
      .error (.io ending) rest := by
  have hcut := UsbMuxMessage.fromReader_take hfits ending hk
  rw [← hsource] at hcut
  have hjoined := UsbMuxPacket.fromChunks_simulates F ending source
  rcases ChunkedReader.joined_eq_error (hjoined.trans hcut) with
    ⟨rest, hrun, -⟩
  exact ⟨rest, hrun⟩

theorem requestPacket_eq (F : Format) (A : IpFormat Ip)
    (args : AddDeviceArgs Ip) :
    requestPacket F A args = (requestMessage A args).encode F := rfl

theorem handleMessage_request (args : AddDeviceArgs Ip) :
    (handleMessage host ((requestMessage host.addresses args).packet
        host.format)).written =
      (handleAddDevice host args.ip (Text.trim args.udid) args.force
        1).written := by
  have hfits : (request args).IdFits := by
    intro deviceId hid
    cases hid
  have hread := UsbMuxRequest.fromPlist_intoPlist host.addresses hfits
  unfold handleMessage
  simp only [requestMessage, UsbMuxMessage.packet, UsbMuxPayload.asPlist, hread]
  show (handleRequest host 1 (.addDevice _ args.ip (Text.trim args.udid)
    args.force)).written = _
  rw [handleRequest, written_then]

theorem written_addDevice (ip : Ip) (udid : String) (force : Bool)
    (tag : UInt32) :
    (handleAddDevice host ip udid force tag).written =
      [(resultMessage (match addDevice host ip udid force with
        | .ok () => .ok
        | .error err => addDeviceCode err) tag).encode host.format] := by
  unfold handleAddDevice
  cases addDevice host ip udid force with
  | ok _ => rfl
  | error err => rfl

theorem extractResultNumber_resultValue (code : UsbMuxResult) :
    extractResultNumber (resultValue code) = .ok (.ofNat code.toU16) := by
  cases code <;> rfl

theorem handleReply_result (F : Format) (code : UsbMuxResult) (tag : UInt32) :
    handleReply ((resultMessage code tag).packet F) =
      if code = .ok then .added else refusal code := by
  unfold handleReply
  simp only [resultMessage, UsbMuxMessage.packet, UsbMuxPayload.asPlist,
    extractResultNumber_resultValue]
  cases code <;> rfl

theorem addDeviceCode_ne_ok (err : RusbmuxError) : addDeviceCode err ≠ .ok := by
  unfold addDeviceCode
  split
  · split <;> simp
  · simp
  · simp
  · simp

theorem status_refusal_ne_zero {code : UsbMuxResult} (h : code ≠ .ok) :
    (refusal code).status ≠ 0 := by
  cases code with
  | ok => exact absurd rfl h
  | _ => decide

theorem status_verdictOf (outcome : Except RusbmuxError Unit) :
    (verdictOf outcome).status = 0 <-> outcome = .ok () := by
  cases outcome with
  | ok _ => simp [verdictOf, Verdict.status]
  | error err =>
      simp [verdictOf, status_refusal_ne_zero (addDeviceCode_ne_ok err)]

def answerTo (args : AddDeviceArgs Ip) : UsbMuxMessage :=
  resultMessage (match addDevice host args.ip (Text.trim args.udid)
      args.force with
    | .ok () => .ok
    | .error err => addDeviceCode err) 1

theorem serve_request {args : AddDeviceArgs Ip}
    (hrequest : (requestMessage host.addresses args).Fits host.format)
    (hparses : (requestMessage host.addresses args).Parses host.format)
    (ending : IoError) (toDaemon : Socket) :
    serve host ending
        (toDaemon.split (requestPacket host.format host.addresses args)) =
      (answerTo host args).encode host.format := by
  rcases run_fromChunks_encode hrequest hparses ending
    ((toDaemon.bytes_split _).trans (requestPacket_eq _ _ args)) with
    ⟨rest, hread⟩
  unfold serve
  rw [hread]
  simp only [handleMessage_request, written_addDevice, List.flatten_singleton]
  rfl

theorem handleReply_answerTo (args : AddDeviceArgs Ip) :
    handleReply ((answerTo host args).packet host.format) =
      verdictOf (addDevice host args.ip (Text.trim args.udid) args.force) := by
  unfold answerTo
  rw [handleReply_result]
  cases addDevice host args.ip (Text.trim args.udid) args.force with
  | ok _ => rfl
  | error err => exact if_neg (addDeviceCode_ne_ok err)

theorem runAddDevice_course {args : AddDeviceArgs Ip}
    (hudid : Text.trim args.udid ≠ "")
    (hrequest : (requestMessage host.addresses args).Fits host.format)
    (hparses : (requestMessage host.addresses args).Parses host.format)
    (hfits : (answerTo host args).Fits host.format)
    (hanswer : (answerTo host args).Parses host.format)
    (ending : IoError) (toDaemon fromDaemon : Socket) (course : Course) :
    exists verdict,
      runAddDevice host.format host.addresses ending args
          (daemonAnswer host ending toDaemon fromDaemon course) =
        some verdict ∧
      ((course.Completes ((answerTo host args).encode host.format) ∧
          verdict = verdictOf
            (addDevice host args.ip (Text.trim args.udid) args.force)) ∨
        (¬ course.Completes ((answerTo host args).encode host.format) ∧
          exists err, verdict = .failed err)) := by
  unfold runAddDevice daemonAnswer Course.Completes
  rw [if_neg hudid]
  rcases course with ⟨connected, sent, inTime, arrives⟩
  cases connected with
  | error message =>
      refine ⟨_, rfl, Or.inr ⟨fun h => ?_, _, rfl⟩⟩
      cases h.left
  | ok _ =>
      cases sent with
      | false =>
          refine ⟨_, rfl, Or.inr ⟨fun h => ?_, _, rfl⟩⟩
          cases h.right.left
      | true =>
          cases inTime with
          | false =>
              refine ⟨_, rfl, Or.inr ⟨fun h => ?_, _, rfl⟩⟩
              cases h.right.right.left
          | true =>
              simp only [serve_request host hrequest hparses, Bool.not_true,
                Bool.false_eq_true, if_false, true_and]
              by_cases hle : ((answerTo host args).encode
                  host.format).length <= arrives
              · rcases run_fromChunks_encode hfits hanswer ending
                  ((fromDaemon.bytes_split _).trans
                    (List.take_of_length_le hle)) with ⟨rest, hreply⟩
                simp only [hreply, handleReply_answerTo]
                exact ⟨_, rfl, Or.inl ⟨hle, rfl⟩⟩
              · rcases run_fromChunks_take hfits ending (Nat.not_le.mp hle)
                  (fromDaemon.bytes_split _) with ⟨rest, hreply⟩
                simp only [hreply]
                exact ⟨_, rfl, Or.inr ⟨hle, _, rfl⟩⟩

/--
However the two sockets cut the packets, the command ends with what `add_device`
has returned for the address, the trimmed UDID and the flag it was given if the
whole answer comes in time, and with an error of its own if it does not.
-/
theorem runAddDevice_daemonAnswer (args : AddDeviceArgs Ip)
    (hudid : Text.trim args.udid ≠ "")
    (hrequest : (requestMessage host.addresses args).Fits host.format)
    (hparses : (requestMessage host.addresses args).Parses host.format)
    (hresult : forall code, (resultMessage code 1).Fits host.format ∧
      (resultMessage code 1).Parses host.format)
    (ending : IoError) (toDaemon fromDaemon : Socket) (course : Course) :
    exists verdict,
      runAddDevice host.format host.addresses ending args
          (daemonAnswer host ending toDaemon fromDaemon course) =
        some verdict ∧
      (course.Completes ((answerTo host args).encode host.format) ->
        verdict = verdictOf
          (addDevice host args.ip (Text.trim args.udid) args.force)) ∧
      (¬ course.Completes ((answerTo host args).encode host.format) ->
        verdict.status = 1) ∧
      (verdict.status = 0 <->
        addDevice host args.ip (Text.trim args.udid) args.force = .ok () ∧
          course.Completes ((answerTo host args).encode host.format)) := by
  have hcode := hresult (match addDevice host args.ip (Text.trim args.udid)
      args.force with
    | .ok () => .ok
    | .error err => addDeviceCode err)
  rcases runAddDevice_course host hudid hrequest hparses hcode.left hcode.right
    ending toDaemon fromDaemon course with
    ⟨verdict, hrun, ⟨hcompletes, rfl⟩ | ⟨hcompletes, err, rfl⟩⟩
  · refine ⟨_, hrun, fun _ => rfl, fun h => absurd hcompletes h, ?_⟩
    rw [status_verdictOf]
    exact (and_iff_left hcompletes).symm
  · refine ⟨_, hrun, fun h => absurd h hcompletes, fun _ => rfl, ?_⟩
    exact iff_of_false Nat.one_ne_zero fun h => hcompletes h.right

end exchange

/-!
### A device at a local address
-/

def utf8 (text : String) : List UInt8 :=
  text.toList.map fun c => .ofNat c.toNat

def documentHead : List UInt8 :=
  utf8 ("<?xml version=\"1.0\" encoding=\"UTF-8\"?>\n" ++
    "<!DOCTYPE plist PUBLIC \"-//Apple//DTD PLIST 1.0//EN\" " ++
    "\"http://www.apple.com/DTDs/PropertyList-1.0.dtd\">\n" ++
    "<plist version=\"1.0\">\n<dict>\n\t<key>MessageType</key>\n\t<string>")

def localArgs : AddDeviceArgs Unit where
  ip := ()
  udid := " 00008101\n"

def requestXml : List UInt8 :=
  documentHead ++
    (utf8 "AddDevice" ++
      utf8 ("</string>\n\t<key>IP</key>\n\t<string>127.0.0.1</string>\n" ++
        "\t<key>UDID</key>\n\t<string>00008101</string>\n" ++
        "\t<key>Force</key>\n\t<false/>\n" ++
        "\t<key>ClientVersionString</key>\n\t<string>0.3.0</string>\n" ++
        "\t<key>ProgramName</key>\n\t<string>rusbmux</string>\n" ++
        "</dict>\n</plist>"))

def digits : UsbMuxResult -> List UInt8
  | .ok => utf8 "0"
  | .badCommand => utf8 "1"
  | .badDeviceOrNoSuchFile => utf8 "2"
  | .connectionRefused => utf8 "3"
  | .badVersion => utf8 "6"
  | .invalidInput => utf8 "22"

def resultXml (code : UsbMuxResult) : List UInt8 :=
  documentHead ++
    (utf8 "Result" ++ (utf8 "</string>\n\t<key>Number</key>\n\t<integer>" ++
      (digits code ++ utf8 "</integer>\n</dict>\n</plist>")))

theorem resultXml_injective {code other : UsbMuxResult}
    (h : resultXml code = resultXml other) : code = other := by
  have hrest := List.append_cancel_left
    (List.append_cancel_left (List.append_cancel_left h))
  have hdigits := List.append_cancel_right hrest
  revert hdigits
  cases code <;> cases other <;> decide

theorem result_ne_addDevice (later later' : List UInt8) :
    utf8 "Result" ++ later ≠ utf8 "AddDevice" ++ later' := by
  intro h
  have hhead := congrArg List.head? h
  simp [utf8] at hhead

theorem resultXml_ne_requestXml (code : UsbMuxResult) :
    resultXml code ≠ requestXml := by
  intro h
  exact result_ne_addDevice _ _ (List.append_cancel_left h)

def resultCodes : List UsbMuxResult :=
  [.ok, .badCommand, .badDeviceOrNoSuchFile, .connectionRefused, .badVersion,
    .invalidInput]

theorem mem_resultCodes (code : UsbMuxResult) : code ∈ resultCodes := by
  cases code <;> decide

def resultCodeOf (value : Value) : Option UsbMuxResult :=
  match extractResultNumber value with
  | .ok number => resultCodes.find? fun code => code.toU16 = number.toNat
  | .error _ => none

def localFormat : Format where
  fromBytes bytes :=
    match resultCodes.find? fun code => resultXml code = bytes with
    | some code => .ok (resultValue code)
    | none =>
        if bytes = requestXml then
          .ok ((request localArgs).intoPlist UsbMuxRequest.loopback)
        else
          .error ⟨"unexpected end of file"⟩
  toXmlBytes value := (resultCodeOf value).elim requestXml resultXml

theorem toXmlBytes_resultValue (code : UsbMuxResult) :
    localFormat.toXmlBytes (resultValue code) = resultXml code := by
  cases code <;> rfl

theorem toXmlBytes_request :
    localFormat.toXmlBytes
      ((request localArgs).intoPlist UsbMuxRequest.loopback) = requestXml := rfl

theorem fromBytes_resultXml (code : UsbMuxResult) :
    localFormat.fromBytes (resultXml code) = .ok (resultValue code) := by
  have hfind : (resultCodes.find? fun other => resultXml other = resultXml code) =
      some code := by
    cases hfound : resultCodes.find? fun other =>
        resultXml other = resultXml code with
    | none =>
        have hnone := List.find?_eq_none.mp hfound code (mem_resultCodes code)
        exact absurd (decide_eq_true rfl) hnone
    | some other =>
        have hsame : resultXml other = resultXml code := by
          simpa using List.find?_some hfound
        rw [resultXml_injective hsame]
  simp only [localFormat, hfind]

theorem fromBytes_requestXml :
    localFormat.fromBytes requestXml =
      .ok ((request localArgs).intoPlist UsbMuxRequest.loopback) := by
  have hnone : (resultCodes.find? fun code => resultXml code = requestXml) =
      none := by
    apply List.find?_eq_none.mpr
    intro code _
    simpa using resultXml_ne_requestXml code
  simp only [localFormat, hnone, if_true]

theorem length_requestXml : requestXml.length < 2 ^ 32 - UsbMuxHeader.size := by
  unfold requestXml documentHead utf8
  simp only [List.length_append, List.length_map, String.toList_append]
  decide

theorem length_resultXml (code : UsbMuxResult) :
    (resultXml code).length < 2 ^ 32 - UsbMuxHeader.size := by
  have hdigits : (digits code).length <= 2 := by
    cases code <;> decide
  unfold resultXml documentHead utf8
  simp only [List.length_append, List.length_map, String.toList_append]
  refine Nat.lt_of_le_of_lt (Nat.add_le_add_left (Nat.add_le_add_left
    (Nat.add_le_add_left (Nat.add_le_add_right hdigits _) _) _) _) ?_
  decide

def localHost : Host Unit where
  format := localFormat
  addresses := UsbMuxRequest.loopback
  lockdownPath name := "/var/lib/lockdown/" ++ name
  fsWrite _ _ := .ok ()
  fsRemoveFile _ := .ok ()
  fsRead _ := .ok (utf8 "bplist00")
  fsTryExists _ := .ok true
  newUuid := "6ba7b810-9dad-11d1-80b4-00c04fd430c8"
  pairingFile _ := .ok "aa:bb:cc:dd:ee:ff"
  networkAddress _ := [127, 0, 0, 1]
  nextDeviceId := 1
  newNetwork _ := .ok ()
  connectedDevices := []
  receiverCount := 0
  deviceConnect _ _ := .ok ()
  relay _ _ := .ok ()
  hotplugEvents := []

def bytewise : Socket where
  split bytes := bytes.map fun b => ⟨[b], List.cons_ne_nil _ _⟩
  bytes_split := by
    intro bytes
    induction bytes with
    | nil => rfl
    | cons b rest ih =>
        rw [List.map_cons, Chunk.bytes_cons, ih]
        rfl

theorem fits_localArgs :
    (requestMessage UsbMuxRequest.loopback localArgs).Fits localFormat := by
  apply UsbMuxMessage.fits_plist
  rw [toXmlBytes_request]
  exact length_requestXml

theorem parses_localArgs :
    (requestMessage UsbMuxRequest.loopback localArgs).Parses localFormat := by
  intro value hvalue
  cases hvalue
  rw [toXmlBytes_request]
  exact fromBytes_requestXml

theorem fits_result (code : UsbMuxResult) :
    (resultMessage code 1).Fits localFormat := by
  apply UsbMuxMessage.fits_plist
  rw [toXmlBytes_resultValue]
  exact length_resultXml code

theorem parses_result (code : UsbMuxResult) :
    (resultMessage code 1).Parses localFormat := by
  intro value hvalue
  cases hvalue
  rw [toXmlBytes_resultValue]
  exact fromBytes_resultXml code

def wholeAnswer : Course where
  arrives := 1000

theorem runAddDevice_daemonAnswer_local :
    exists verdict,
      runAddDevice localHost.format localHost.addresses
          { kind := .unexpectedEof, message := "early eof" } localArgs
          (daemonAnswer localHost
            { kind := .unexpectedEof, message := "early eof" } bytewise
            bytewise wholeAnswer) = some verdict ∧
      (wholeAnswer.Completes
          ((answerTo localHost localArgs).encode localHost.format) ->
        verdict = verdictOf (addDevice localHost localArgs.ip
          (Text.trim localArgs.udid) localArgs.force)) ∧
      (¬ wholeAnswer.Completes
          ((answerTo localHost localArgs).encode localHost.format) ->
        verdict.status = 1) ∧
      (verdict.status = 0 <->
        addDevice localHost localArgs.ip (Text.trim localArgs.udid)
            localArgs.force = .ok () ∧
          wholeAnswer.Completes
            ((answerTo localHost localArgs).encode localHost.format)) :=
  runAddDevice_daemonAnswer localHost localArgs (by decide) fits_localArgs
    parses_localArgs (fun code => ⟨fits_result code, parses_result code⟩)
    { kind := .unexpectedEof, message := "early eof" } bytewise bytewise
    wholeAnswer

end Cli
end Rusbmux
