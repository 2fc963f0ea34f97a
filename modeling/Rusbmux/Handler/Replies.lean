import Rusbmux.Handler.Handlers
import Rusbmux.Parser.UsbMuxRoundTrip

/-!
# Which requests are answered

Every packet a handler writes carries the tag of the request, on every path.
Whether there is one at all depends on the path: `Answerable` collects, from the
packet and the outcomes of the operations on the host, the cases in which the
client gets a reply.
-/

namespace Rusbmux
namespace Handler

open Foundation
open Rusbmux.Parser
open Rusbmux.Plist
open Rusbmux.Watcher

def packetTag (packet : List UInt8) : UInt32 :=
  .ofNat (leNat (field packet 12 4))

theorem encode_length (header : UsbMuxHeader) :
    header.encode.length = UsbMuxHeader.size := by
  simp [UsbMuxHeader.encode, leBytes_length, UsbMuxHeader.size]

theorem packetTag_encodeFrom (F : Format) (payload : List UInt8)
    (version : UsbMuxVersion) (msgType : UsbMuxMsgType) (tag : UInt32) :
    packetTag (UsbMuxPacket.encodeFrom F payload version msgType tag) =
      tag := by
  unfold packetTag UsbMuxPacket.encodeFrom UsbMuxPacket.encode
  rw [field_append_of_le (by rw [encode_length]; decide)]
  unfold UsbMuxHeader.encode field
  rw [List.drop_append_of_le_length (by simp [leBytes_length]),
    List.drop_eq_nil_of_le (by simp [leBytes_length]), List.nil_append,
    List.take_of_length_le (by simp [leBytes_length]),
    leNat_leBytes tag.toNat_lt, UInt32.ofNat_toNat]

variable {Ip : Type} (host : Host Ip)

/-- What the client of a request is owed. -/
def Answered {alpha error : Type} (tag : UInt32)
    (t : Transcript (List UInt8) error alpha) : Prop :=
  t.written ≠ [] ∧ t.WritesOnly fun packet => packetTag packet = tag

/-!
## Tags
-/

abbrev TagsOnly {alpha error : Type} (tag : UInt32)
    (t : Transcript (List UInt8) error alpha) : Prop :=
  t.WritesOnly fun packet => packetTag packet = tag

theorem tagsOnly_writeReply (tag : UInt32) (value : Value) :
    TagsOnly tag (writeReply host tag value) :=
  .send (packetTag_encodeFrom _ _ _ _ _)

theorem tagsOnly_sendResult (code : UsbMuxResult) (tag : UInt32) :
    TagsOnly tag (sendResult host code tag) :=
  tagsOnly_writeReply host tag _

theorem tagsOnly_writeAll (tag : UInt32) (values : List Value) :
    TagsOnly tag (writeAll host tag values) := by
  induction values with
  | nil => exact .pure _
  | cons value rest ih =>
      exact (tagsOnly_writeReply host tag value).bind fun _ => ih

theorem tagsOnly_savePairRecord (pairRecordId : String)
    (pairRecordData : List UInt8) (deviceId : Option UInt64) (tag : UInt32) :
    TagsOnly tag
      (savePairRecord host pairRecordId pairRecordData deviceId tag) := by
  refine (Transcript.WritesOnly.lift _).bind fun _ => ?_
  refine (Transcript.WritesOnly.lift _).bind fun _ => ?_
  cases deviceId with
  | none => exact .pure _
  | some deviceId => exact tagsOnly_writeReply host tag _

theorem tagsOnly_readPairRecord (pairRecordId : String) (tag : UInt32) :
    TagsOnly tag (readPairRecord host pairRecordId tag) := by
  refine (Transcript.WritesOnly.lift _).bind fun _ => ?_
  refine (Transcript.WritesOnly.lift _).bind fun _ => ?_
  exact tagsOnly_writeReply host tag _

theorem tagsOnly_deletePairRecord (pairRecordId : String) (tag : UInt32) :
    TagsOnly tag (deletePairRecord host pairRecordId) :=
  (Transcript.WritesOnly.lift _).bind fun _ => .lift _

theorem tagsOnly_replyToRecordError (isAnswered : RusbmuxError -> Bool)
    (tag : UInt32) (err : RusbmuxError) :
    TagsOnly tag (replyToRecordError host isAnswered tag err) := by
  unfold replyToRecordError
  split
  · exact tagsOnly_sendResult host _ tag
  · split
    · exact tagsOnly_sendResult host _ tag
    · exact .pure _

theorem tagsOnly_handleSavePairRecord (pairRecordId : String)
    (pairRecordData : List UInt8) (deviceId : Option UInt64) (tag : UInt32) :
    TagsOnly tag
      (handleSavePairRecord host pairRecordId pairRecordData deviceId tag) := by
  refine Transcript.WritesOnly.bind (Transcript.WritesOnly.attempt
    (tagsOnly_savePairRecord host pairRecordId pairRecordData deviceId tag)) ?_
  intro result
  cases result with
  | ok _ => exact tagsOnly_sendResult host _ tag
  | error err =>
      exact (tagsOnly_replyToRecordError host _ tag err).bind fun _ => .fail err

theorem tagsOnly_handleReadPairRecord (pairRecordId : String) (tag : UInt32) :
    TagsOnly tag (handleReadPairRecord host pairRecordId tag) := by
  refine Transcript.WritesOnly.bind (Transcript.WritesOnly.attempt
    (tagsOnly_readPairRecord host pairRecordId tag)) ?_
  intro result
  cases result with
  | ok _ => exact .pure _
  | error err =>
      exact (tagsOnly_replyToRecordError host _ tag err).bind fun _ => .fail err

theorem tagsOnly_handleDeletePairRecord (pairRecordId : String)
    (tag : UInt32) :
    TagsOnly tag (handleDeletePairRecord host pairRecordId tag) := by
  refine Transcript.WritesOnly.bind (Transcript.WritesOnly.attempt
    (tagsOnly_deletePairRecord host pairRecordId tag)) ?_
  intro result
  cases result with
  | ok _ => exact tagsOnly_sendResult host _ tag
  | error err =>
      exact (tagsOnly_replyToRecordError host _ tag err).bind fun _ => .fail err

theorem tagsOnly_handleReadBuid (tag : UInt32) :
    TagsOnly tag (handleReadBuid host tag) := by
  unfold handleReadBuid
  split
  · exact tagsOnly_writeReply host tag _
  · exact tagsOnly_sendResult host _ tag
  · exact .fail _

theorem tagsOnly_handleListen (tag : UInt32) :
    TagsOnly tag (handleListen host tag) := by
  refine (tagsOnly_sendResult host .ok tag).bind fun _ => ?_
  refine (tagsOnly_writeAll host tag _).bind fun _ => ?_
  exact tagsOnly_writeAll host tag _

theorem tagsOnly_handleConnect (deviceId : UInt64) (destinationPort : UInt16)
    (tag : UInt32) :
    TagsOnly tag (handleConnect host deviceId destinationPort tag) := by
  unfold handleConnect
  split
  · exact (tagsOnly_sendResult host .ok tag).bind fun _ => .lift _
  · exact (tagsOnly_sendResult host _ tag).bind fun _ => .fail _

theorem tagsOnly_handleAddDevice (ip : Ip) (udid : String) (force : Bool)
    (tag : UInt32) : TagsOnly tag (handleAddDevice host ip udid force tag) := by
  unfold handleAddDevice
  split
  · exact tagsOnly_sendResult host _ tag
  · exact (tagsOnly_sendResult host _ tag).bind fun _ => .fail _

theorem tagsOnly_then {tag : UInt32} {handling : Handling Unit}
    (h : TagsOnly tag handling) (wrap : RusbmuxError -> HandlerError)
    (flow : ControlFlow) :
    TagsOnly tag (handling.mapError wrap >>= fun _ => pure flow) :=
  (Transcript.WritesOnly.mapError wrap h).bind fun _ => .pure flow

theorem tagsOnly_handleRequest (tag : UInt32) (request : UsbMuxRequest Ip) :
    TagsOnly tag (handleRequest host tag request) := by
  cases request with
  | listen common => exact tagsOnly_then (tagsOnly_handleListen host tag) _ _
  | listDevices common => exact tagsOnly_then (tagsOnly_writeReply host tag _) _ _
  | listListeners common =>
      exact tagsOnly_then (tagsOnly_writeReply host tag _) _ _
  | readBUID common => exact tagsOnly_then (tagsOnly_handleReadBuid host tag) _ _
  | readPairRecord common pairRecordId =>
      exact tagsOnly_then
        (tagsOnly_handleReadPairRecord host pairRecordId tag) _ _
  | savePairRecord common pairRecordId pairRecordData deviceId =>
      exact tagsOnly_then (tagsOnly_handleSavePairRecord host pairRecordId
        pairRecordData deviceId tag) _ _
  | deletePairRecord common pairRecordId =>
      exact tagsOnly_then
        (tagsOnly_handleDeletePairRecord host pairRecordId tag) _ _
  | connect common deviceId port =>
      exact tagsOnly_then (tagsOnly_handleConnect host deviceId port tag) _ _
  | addDevice common ip udid force =>
      exact tagsOnly_then (tagsOnly_handleAddDevice host ip udid force tag) _ _

theorem tagsOnly_handleMessage (packet : UsbMuxPacket) :
    TagsOnly packet.header.tag (handleMessage host packet) := by
  unfold handleMessage
  split
  · split
    · exact .fail _
    · split
      · exact tagsOnly_handleRequest host _ _
      · exact (Transcript.WritesOnly.mapError _
          (tagsOnly_sendResult host _ _)).bind fun _ => .fail _
  · exact tagsOnly_then (tagsOnly_sendResult host _ _) _ _

/-!
## Replies of the single handlers
-/

theorem checkPairRecordId_cases (pairRecordId : String) :
    checkPairRecordId pairRecordId = .ok () ∨
      exists message,
        checkPairRecordId pairRecordId = .error (.unexpectedPacket message) := by
  unfold checkPairRecordId
  split
  · exact Or.inr ⟨_, rfl⟩
  · exact Or.inl rfl

/--
An operation on the file of a pair record is answered: the id is refused, the
operation succeeds, or it fails with one of the given kinds.
-/
def RecordAnswered {alpha : Type} (pairRecordId : String)
    (outcome : Except IoError alpha) (kinds : List ErrorKind) : Prop :=
  checkPairRecordId pairRecordId = .ok () ->
    forall err, outcome = .error err -> err.kind ∈ kinds

theorem isNoSuchFile_io (err : IoError) :
    isNoSuchFile (.io err) = true <->
      err.kind ∈ [ErrorKind.permissionDenied, .notFound] := by
  simp [isNoSuchFile]

theorem isNotFound_io (err : IoError) :
    isNotFound (.io err) = true <-> err.kind ∈ [ErrorKind.notFound] := by
  simp [isNotFound]

theorem replyToRecordError_answers (isAnswered : RusbmuxError -> Bool)
    (tag : UInt32) (err : IoError) :
    (replyToRecordError host isAnswered tag (.io err) >>= fun _ =>
        (.fail (RusbmuxError.io err) : Handling Unit)).written ≠ [] <->
      isAnswered (.io err) = true := by
  rw [show replyToRecordError host isAnswered tag (.io err) =
    if isAnswered (.io err) then sendResult host .badDeviceOrNoSuchFile tag
    else pure () from rfl]
  cases isAnswered (.io err) with
  | false => exact iff_of_false (fun h => h rfl) Bool.noConfusion
  | true => exact iff_of_true (List.cons_ne_nil _ _) rfl

/--
A handler of pair records: it refuses malformed ids, tries an operation on the
file, and replies to the errors that are answered.
-/
theorem written_record_iff {alpha : Type} {pairRecordId : String}
    {outcome : Except IoError alpha} {kinds : List ErrorKind}
    {isAnswered : RusbmuxError -> Bool} {tag : UInt32}
    {operation : Handling Unit}
    {onResult : Except RusbmuxError Unit -> Handling Unit}
    (hkinds : forall err, isAnswered (.io err) = true <-> err.kind ∈ kinds)
    (honError : forall err, onResult (.error err) =
      replyToRecordError host isAnswered tag err >>= fun _ => .fail err)
    (hrefused : forall err, checkPairRecordId pairRecordId = .error err ->
      operation = .fail err)
    (hfailed : forall err, checkPairRecordId pairRecordId = .ok () ->
      outcome = .error err -> operation = .fail (.io err))
    (hdone : forall value, checkPairRecordId pairRecordId = .ok () ->
      outcome = .ok value ->
        (Transcript.attempt operation >>= onResult).written ≠ []) :
    (Transcript.attempt operation >>= onResult).written ≠ [] <->
      RecordAnswered pairRecordId outcome kinds := by
  unfold RecordAnswered
  rcases checkPairRecordId_cases pairRecordId with hcheck | ⟨message, hcheck⟩
  · cases houtcome : outcome with
    | ok value =>
        exact iff_of_true (hdone value hcheck houtcome)
          fun _ err herr => by cases herr
    | error err =>
        rw [hfailed err hcheck houtcome, Transcript.written_attempt_bind]
        show (onResult (.error (.io err))).written ≠ [] <-> _
        rw [honError, replyToRecordError_answers, hkinds]
        constructor
        · intro hkind _ err' herr
          cases herr
          exact hkind
        · intro hanswered
          exact hanswered hcheck err rfl
  · rw [hrefused _ hcheck, Transcript.written_attempt_bind]
    show (onResult (.error (.unexpectedPacket message))).written ≠ [] <-> _
    rw [honError, hcheck]
    exact iff_of_true (List.cons_ne_nil _ _) fun h => by cases h

theorem written_handleSavePairRecord (pairRecordId : String)
    (pairRecordData : List UInt8) (deviceId : Option UInt64) (tag : UInt32) :
    (handleSavePairRecord host pairRecordId pairRecordData deviceId
        tag).written ≠ [] <->
      RecordAnswered pairRecordId
        (host.fsWrite (recordPath host pairRecordId) pairRecordData)
        [.permissionDenied, .notFound] := by
  apply written_record_iff host isNoSuchFile_io (fun _ => rfl)
  · intro err hcheck
    unfold savePairRecord
    rw [hcheck]
    rfl
  · intro err hcheck hwrite
    unfold savePairRecord
    rw [hcheck, hwrite]
    rfl
  · intro _ hcheck hwrite
    unfold savePairRecord
    rw [hcheck, hwrite]
    cases deviceId with
    | none => exact List.cons_ne_nil _ _
    | some deviceId => exact List.cons_ne_nil _ _

theorem written_handleReadPairRecord (pairRecordId : String)
    (tag : UInt32) :
    (handleReadPairRecord host pairRecordId tag).written ≠ [] <->
      RecordAnswered pairRecordId (host.fsRead (recordPath host pairRecordId))
        [.permissionDenied, .notFound] := by
  apply written_record_iff host isNoSuchFile_io (fun _ => rfl)
  · intro err hcheck
    unfold readPairRecord
    rw [hcheck]
    rfl
  · intro err hcheck hread
    unfold readPairRecord
    rw [hcheck, hread]
    rfl
  · intro bytes hcheck hread
    unfold readPairRecord
    rw [hcheck, hread]
    exact List.cons_ne_nil _ _

theorem written_handleDeletePairRecord (pairRecordId : String)
    (tag : UInt32) :
    (handleDeletePairRecord host pairRecordId tag).written ≠ [] <->
      RecordAnswered pairRecordId
        (host.fsRemoveFile (recordPath host pairRecordId)) [.notFound] := by
  apply written_record_iff host isNotFound_io (fun _ => rfl)
  · intro err hcheck
    unfold deletePairRecord
    rw [hcheck]
    rfl
  · intro err hcheck hremove
    unfold deletePairRecord
    rw [hcheck, hremove]
    rfl
  · intro _ hcheck hremove
    unfold deletePairRecord
    rw [hcheck, hremove]
    exact List.cons_ne_nil _ _

def HoldsBuid (bytes : List UInt8) : Prop :=
  exists entries buid, host.format.fromBytes bytes = .ok (.dictionary entries) ∧
    Value.get entries "SystemBUID" = some (.string buid)

/--
A request for the BUID is answered: there is no configuration file yet, or the
file cannot be read, or it holds a BUID.
-/
def BuidAnswered : Prop :=
  configExists host = true ->
    forall bytes, host.fsRead (configPath host) = .ok bytes ->
      HoldsBuid host bytes

theorem buidOf_cases (config : Value) :
    (exists entries buid, config = .dictionary entries ∧
        Value.get entries "SystemBUID" = some (.string buid) ∧
        buidOf config = .ok buid) ∨
      (¬ exists entries buid, config = .dictionary entries ∧
          Value.get entries "SystemBUID" = some (.string buid)) ∧
        exists err, buidOf config = .error err ∧ forall io, err ≠ .io io := by
  unfold buidOf
  cases hentries : config.asDictionary with
  | none =>
      refine Or.inr ⟨?_, _, rfl, fun io h => by cases h⟩
      intro h
      rcases h with ⟨entries, buid, rfl, _⟩
      cases hentries
  | some entries =>
      have hconfig : config = .dictionary entries := by
        cases config <;> cases hentries
        rfl
      subst config
      simp only
      cases hget : Value.get entries "SystemBUID" with
      | none =>
          refine Or.inr ⟨?_, _, rfl, fun io h => by cases h⟩
          intro h
          rcases h with ⟨_, buid, hsame, hbuid⟩
          cases hsame
          rw [hget] at hbuid
          cases hbuid
      | some value =>
          simp only
          cases hstring : value.asString with
          | none =>
              refine Or.inr ⟨?_, _, rfl, fun io h => by cases h⟩
              intro h
              rcases h with ⟨_, buid, hsame, hbuid⟩
              cases hsame
              rw [hget] at hbuid
              cases hbuid
              cases hstring
          | some buid =>
              have hvalue : value = .string buid := by
                cases value <;> cases hstring
                rfl
              subst value
              exact Or.inl ⟨entries, buid, rfl, hget, rfl⟩

def OnlyIoErrors (read : Except RusbmuxError String) : Prop :=
  forall err, read = .error err -> exists io, err = .io io

theorem written_handleReadBuid_iff (tag : UInt32) :
    (handleReadBuid host tag).written ≠ [] <->
      OnlyIoErrors (readSystemBuid host) := by
  unfold handleReadBuid
  cases readSystemBuid host with
  | ok buid => exact iff_of_true (List.cons_ne_nil _ _) fun err h => by cases h
  | error err =>
      cases err with
      | io io =>
          apply iff_of_true (List.cons_ne_nil _ _)
          intro err h
          cases h
          exact ⟨io, rfl⟩
      | _ =>
          apply iff_of_false (fun h => h rfl)
          intro h
          rcases h _ rfl with ⟨io, hio⟩
          cases hio

theorem holdsBuid_iff (bytes : List UInt8) :
    HoldsBuid host bytes <->
      OnlyIoErrors ((host.format.fromBytes bytes).mapError .plist >>= buidOf) := by
  unfold HoldsBuid
  cases host.format.fromBytes bytes with
  | error plist =>
      apply iff_of_false
      · intro h
        rcases h with ⟨entries, buid, hentries, _⟩
        cases hentries
      · intro h
        rcases h (.plist plist) rfl with ⟨io, hio⟩
        cases hio
  | ok config =>
      show _ <-> OnlyIoErrors (buidOf config)
      rcases buidOf_cases config with
        ⟨entries, buid, rfl, hget, hok⟩ | ⟨hnone, err, herr, hio⟩
      · rw [hok]
        exact iff_of_true ⟨entries, buid, rfl, hget⟩ fun err h => by cases h
      · rw [herr]
        apply iff_of_false
        · intro h
          rcases h with ⟨entries, buid, hentries, hget⟩
          exact hnone ⟨entries, buid, Except.ok.inj hentries, hget⟩
        · intro h
          rcases h err rfl with ⟨io, hsame⟩
          exact hio io hsame

theorem written_handleReadBuid (tag : UInt32) :
    (handleReadBuid host tag).written ≠ [] <-> BuidAnswered host := by
  rw [written_handleReadBuid_iff]
  unfold readSystemBuid BuidAnswered
  cases hexists : configExists host with
  | false =>
      refine iff_of_true ?_ Bool.noConfusion
      simp only [Bool.not_false, if_true]
      cases host.fsWrite (configPath host) _ with
      | ok _ => exact fun err h => by cases h
      | error io =>
          intro err h
          cases h
          exact ⟨io, rfl⟩
  | true =>
      simp only [Bool.not_true, Bool.false_eq_true, if_false, true_imp_iff]
      cases hread : host.fsRead (configPath host) with
      | error io =>
          refine iff_of_true ?_ fun bytes h => by cases h
          intro err h
          cases h
          exact ⟨io, rfl⟩
      | ok bytes =>
          constructor
          · intro h bytes' hbytes
            cases hbytes
            exact (holdsBuid_iff host bytes).mpr h
          · intro h
            exact (holdsBuid_iff host bytes).mp (h bytes rfl)

theorem written_handleListen (tag : UInt32) :
    (handleListen host tag).written ≠ [] :=
  List.cons_ne_nil _ _

theorem written_handleConnect (deviceId : UInt64) (destinationPort : UInt16)
    (tag : UInt32) :
    (handleConnect host deviceId destinationPort tag).written ≠ [] := by
  unfold handleConnect
  split <;> exact List.cons_ne_nil _ _

theorem written_handleAddDevice (ip : Ip) (udid : String) (force : Bool)
    (tag : UInt32) : (handleAddDevice host ip udid force tag).written ≠ [] := by
  unfold handleAddDevice
  split <;> exact List.cons_ne_nil _ _

/-!
## Replies to a packet
-/

def RequestAnswered : UsbMuxRequest Ip -> Prop
  | .readBUID _ => BuidAnswered host
  | .savePairRecord _ pairRecordId pairRecordData _ =>
      RecordAnswered pairRecordId
        (host.fsWrite (recordPath host pairRecordId) pairRecordData)
        [.permissionDenied, .notFound]
  | .readPairRecord _ pairRecordId =>
      RecordAnswered pairRecordId (host.fsRead (recordPath host pairRecordId))
        [.permissionDenied, .notFound]
  | .deletePairRecord _ pairRecordId =>
      RecordAnswered pairRecordId
        (host.fsRemoveFile (recordPath host pairRecordId)) [.notFound]
  | .listen _ | .listDevices _ | .listListeners _ | .connect _ _ _
  | .addDevice _ _ _ _ => True

/-- The packets that are answered. -/
def Answerable (packet : UsbMuxPacket) : Prop :=
  packet.header.msgType = .messagePlist ->
    exists payload, packet.payload = .plist payload ∧
      forall request, UsbMuxRequest.fromPlist host.addresses payload =
          .ok request -> RequestAnswered host request

theorem written_then (handling : Handling Unit)
    (wrap : RusbmuxError -> HandlerError) (flow : ControlFlow) :
    (handling.mapError wrap >>= fun _ => pure flow).written =
      handling.written := by
  rcases handling with ⟨written, result⟩
  cases result with
  | ok _ => exact List.append_nil written
  | error err => rfl

theorem written_handleRequest (tag : UInt32) (request : UsbMuxRequest Ip) :
    (handleRequest host tag request).written ≠ [] <->
      RequestAnswered host request := by
  cases request with
  | listen common =>
      unfold handleRequest
      rw [written_then]
      exact iff_of_true (written_handleListen host tag) trivial
  | listDevices common => exact iff_of_true (List.cons_ne_nil _ _) trivial
  | listListeners common => exact iff_of_true (List.cons_ne_nil _ _) trivial
  | readBUID common =>
      unfold handleRequest
      rw [written_then]
      exact written_handleReadBuid host tag
  | readPairRecord common pairRecordId =>
      unfold handleRequest
      rw [written_then]
      exact written_handleReadPairRecord host pairRecordId tag
  | savePairRecord common pairRecordId pairRecordData deviceId =>
      unfold handleRequest
      rw [written_then]
      exact written_handleSavePairRecord host pairRecordId pairRecordData
        deviceId tag
  | deletePairRecord common pairRecordId =>
      unfold handleRequest
      rw [written_then]
      exact written_handleDeletePairRecord host pairRecordId tag
  | connect common deviceId port =>
      unfold handleRequest
      rw [written_then]
      exact iff_of_true (written_handleConnect host deviceId port tag) trivial
  | addDevice common ip udid force =>
      unfold handleRequest
      rw [written_then]
      exact iff_of_true (written_handleAddDevice host ip udid force tag) trivial

theorem written_handleMessage (packet : UsbMuxPacket) :
    (handleMessage host packet).written ≠ [] <-> Answerable host packet := by
  rcases packet with ⟨⟨len, version, msgType, tag⟩, payload⟩
  unfold Answerable
  cases msgType with
  | messagePlist =>
      cases payload with
      | raw bytes =>
          apply iff_of_false (fun h => h rfl)
          intro h
          rcases h rfl with ⟨payload, hpayload, _⟩
          cases hpayload
      | plist value =>
          unfold handleMessage
          simp only [UsbMuxPayload.asPlist]
          cases hrequest : UsbMuxRequest.fromPlist host.addresses value with
          | ok request =>
              simp only
              rw [written_handleRequest]
              constructor
              · intro hanswered _
                refine ⟨value, rfl, ?_⟩
                intro request' h
                rw [hrequest] at h
                cases h
                exact hanswered
              · intro h
                rcases h trivial with ⟨_, hvalue, hanswered⟩
                cases hvalue
                exact hanswered request hrequest
          | error err =>
              apply iff_of_true (List.cons_ne_nil _ _)
              intro _
              refine ⟨value, rfl, ?_⟩
              intro request h
              rw [hrequest] at h
              cases h
  | _ => exact iff_of_true (List.cons_ne_nil _ _) fun h => by cases h

/--
A packet is answered, and with its own tag only, exactly in these cases.
-/
theorem answered_iff (packet : UsbMuxPacket) :
    Answered packet.header.tag (handleMessage host packet) <->
      Answerable host packet := by
  unfold Answered
  rw [written_handleMessage]
  exact and_iff_left (tagsOnly_handleMessage host packet)

def refusingHost : Host Unit where
  format :=
    { fromBytes := fun _ => .error ⟨"unexpected end of file"⟩
      toXmlBytes := fun _ => [] }
  addresses := UsbMuxRequest.loopback
  lockdownPath name := "/var/lib/lockdown/" ++ name
  fsWrite _ _ := .error { kind := .permissionDenied }
  fsRemoveFile _ := .error { kind := .permissionDenied }
  fsRead _ := .error { kind := .permissionDenied }
  fsTryExists _ := .error { kind := .permissionDenied }
  newUuid := "6ba7b810-9dad-11d1-80b4-00c04fd430c8"
  pairingFile _ := .error "unexpected response"
  networkAddress _ := [127, 0, 0, 1]
  nextDeviceId := 1
  newNetwork _ := .error (.io { kind := .connectionRefused })
  connectedDevices := []
  receiverCount := 0
  deviceConnect _ _ := .error (.io { kind := .connectionRefused })
  relay _ _ := .ok ()
  hotplugEvents := []

def deletion : UsbMuxPacket where
  header := { len := 300, version := .plist, msgType := .messagePlist, tag := 7 }
  payload := .plist
    ((UsbMuxRequest.deletePairRecord {} "00008101").intoPlist
      UsbMuxRequest.loopback)

/-- A deletion that is not permitted is not answered. -/
theorem not_answered_deletion :
    ¬ forall (Ip : Type) (host : Host Ip) (packet : UsbMuxPacket),
      Answered packet.header.tag (handleMessage host packet) := by
  intro h
  have hwritten := (h Unit refusingHost deletion).left
  rcases (written_handleMessage _ _).mp hwritten rfl with
    ⟨payload, hpayload, hanswered⟩
  cases hpayload
  have hrecord := hanswered (.deletePairRecord {} "00008101")
    (UsbMuxRequest.fromPlist_intoPlist _ fun _ hid => by cases hid) rfl _ rfl
  revert hrecord
  decide

end Handler
end Rusbmux
