import Rusbmux.Error
import Rusbmux.Foundation.Dialogue
import Rusbmux.Plist.Value
import Rusbmux.Text
import Rusbmux.Watcher.Preflight

/-!
# Pairing in the preflight task

The preflight task with the data of its calls: `run` of the daemon and the
functions of `watcher/preflight.rs` that it calls.  What the device and the file
system answer is not restricted, so the results hold of any device, and since a
task that is cancelled stops after some reply they hold of cancelled tasks too.
-/

namespace Rusbmux
namespace Watcher

open Foundation

inductive IdeviceError where
  | invalidHostId
  | rustls (text : String)
  | tlsBuilderFailed (text : String)
  | pemParseFailed (text : String)
  | passwordProtected
  | pairingDialogResponsePending
  | userDeniedPairing
  | other (text : String)
deriving DecidableEq, Repr

inductive PreflightError where
  | rusbmux (err : RusbmuxError)
  | idevice (err : IdeviceError)
deriving DecidableEq, Repr

/-- The pairing files of the library, and the host ID of this attempt. -/
structure PreflightHost (file : Type) where
  fromBytes : List UInt8 -> Except String file
  serialize : file -> Except RusbmuxError (List UInt8)
  hostId : String

inductive PreflightCall (file : Type) where
  | readFile
  | removeFile
  | readSystemBuid
  /-- `LockdownClient::connect`. -/
  | connectLockdown
  | getType
  | startSession (pairingFile : file)
  | setValue (key : String) (value : Plist.Value)
  | getValue (key : String)
  | pairOnce (hostId systemBuid : String)
  | startService (name : String)
  | connectService (port : UInt16)
  | observeNotifications (names : List String)
  | receiveNotification
  | writeFile (data : List UInt8)

inductive PreflightReply (file : Type) where
  | done
  | data (bytes : List UInt8)
  | text (text : String)
  | value (value : Plist.Value)
  | file (pairingFile : file)
  | port (port : UInt16)
  | timeout
  | failed (err : RusbmuxError)
  | idevice (err : IdeviceError)

inductive Pairing (file : Type) where
  | readingFile
  | removingFile
  | readingBuid (saved : Option file)
  | connecting (saved : Option file) (systemBuid : String)
  | gettingType (saved : Option file) (systemBuid : String)
  | startingSession (saved : file) (systemBuid : String)
  | reconnecting (systemBuid : String)
  | settingBuid (systemBuid : String)
  | gettingVersion (systemBuid : String)
  | gettingClass (systemBuid : String) (productVersionMajor : Nat)
  | pairing (systemBuid : String) (supportNotifications : Bool)
  | startingService (systemBuid : String)
  | connectingNotifications (systemBuid : String) (port : UInt16)
  | observing (systemBuid : String)
  | waitingForRequest (systemBuid : String)
  /-- In `set_value`, after the device has asked for the BUID. -/
  | answeringRequest (systemBuid : String)
  /-- In the `pair_once` that finds out whether the user has denied. -/
  | askingAgain (systemBuid : String)
  | pairingAgain (systemBuid : String)
  | verifying (pairingFile : file)
  | writingFile (data : List UInt8)
  | ended (result : Except PreflightError Unit)

namespace Pairing

variable {file : Type}

def lockdownType : String := "com.apple.mobile.lockdown"

def insecureNotificationProxy : String :=
  "com.apple.mobile.insecure_notification_proxy"

def requestPair : String := "com.apple.mobile.lockdown.request_pair"

def requestHostBuid : String := "com.apple.mobile.lockdown.request_host_buid"

def untrustedHostBuid : String := "UntrustedHostBUID"

def call (H : PreflightHost file) : Pairing file -> Option (PreflightCall file)
  | readingFile => some .readFile
  | removingFile => some .removeFile
  | readingBuid _ => some .readSystemBuid
  | connecting _ _ => some .connectLockdown
  | gettingType _ _ => some .getType
  | startingSession saved _ => some (.startSession saved)
  | reconnecting _ => some .connectLockdown
  | settingBuid buid => some (.setValue untrustedHostBuid (.string buid))
  | gettingVersion _ => some (.getValue "ProductVersion")
  | gettingClass _ _ => some (.getValue "DeviceClass")
  | pairing buid _ => some (.pairOnce H.hostId buid)
  | startingService _ => some (.startService insecureNotificationProxy)
  | connectingNotifications _ port => some (.connectService port)
  | observing _ => some (.observeNotifications [requestPair, requestHostBuid])
  | waitingForRequest _ => some .receiveNotification
  | answeringRequest buid => some (.setValue untrustedHostBuid (.string buid))
  | askingAgain buid => some (.pairOnce H.hostId buid)
  | pairingAgain buid => some (.pairOnce H.hostId buid)
  | verifying pairingFile => some (.startSession pairingFile)
  | writingFile data => some (.writeFile data)
  | ended _ => none

def fail (err : PreflightError) : Option (Pairing file) :=
  some (ended (.error err))

def invalid (message : String) : Option (Pairing file) :=
  fail (.rusbmux (.invalidData message))

def productVersionMajor (productVersion : String) : Option Nat :=
  Text.parseUnsigned 32 (Text.firstPart '.' productVersion)

def resume (H : PreflightHost file) :
    Pairing file -> PreflightReply file -> Option (Pairing file)
  | ended _, _ => none
  | readingFile, .data data =>
      match H.fromBytes data with
      | .ok saved => some (readingBuid (some saved))
      | .error _ => some removingFile
  | readingFile, .failed (.io err) =>
      if err.kind = .notFound then some (readingBuid none)
      else fail (.rusbmux (.io err))
  | removingFile, .done => some (readingBuid none)
  | readingBuid saved, .text buid => some (connecting saved buid)
  | connecting saved buid, .done => some (gettingType saved buid)
  | gettingType saved buid, .text type =>
      -- any other type is that of a device in restore mode
      if type ≠ lockdownType then some (ended (.ok ()))
      else
        match saved with
        | some saved => some (startingSession saved buid)
        | none => some (settingBuid buid)
  | startingSession _ _, .done => some (ended (.ok ()))
  | startingSession _ buid, .idevice .invalidHostId => some (settingBuid buid)
  | startingSession _ buid, .idevice (.rustls _) => some (reconnecting buid)
  | startingSession _ buid, .idevice (.tlsBuilderFailed _) =>
      some (reconnecting buid)
  | startingSession _ buid, .idevice (.pemParseFailed _) =>
      some (reconnecting buid)
  | reconnecting buid, .done => some (settingBuid buid)
  | settingBuid buid, .done => some (gettingVersion buid)
  | gettingVersion buid, .value value =>
      match value.asString with
      | none => invalid "`ProductVersion` is not a string"
      | some productVersion =>
          match productVersionMajor productVersion with
          | none => invalid "`ProductVersion` is not valid"
          | some major => some (gettingClass buid major)
  | gettingClass buid major, .value value =>
      match value.asString with
      | none => invalid "`DeviceClass` is not a string"
      | some deviceClass =>
          some (pairing buid
            (PreflightTask.supportNotifications deviceClass major))
  | pairing _ _, .file pairingFile => some (verifying pairingFile)
  | pairing buid supportNotifications, .idevice .passwordProtected
  | pairing buid supportNotifications, .idevice .pairingDialogResponsePending =>
      if supportNotifications then some (startingService buid)
      else some (ended (.ok ()))
  | startingService buid, .port port => some (connectingNotifications buid port)
  | connectingNotifications buid _, .done => some (observing buid)
  | observing buid, .done => some (waitingForRequest buid)
  | waitingForRequest buid, .text name =>
      if name = requestPair then some (pairingAgain buid)
      else if name = requestHostBuid then some (answeringRequest buid)
      else some (waitingForRequest buid)
  | waitingForRequest buid, .timeout => some (askingAgain buid)
  | answeringRequest buid, .done => some (waitingForRequest buid)
  | askingAgain _, .idevice .userDeniedPairing =>
      fail (.idevice .userDeniedPairing)
  -- whatever else comes of it, a pairing file too, is dropped
  | askingAgain buid, .file _ | askingAgain buid, .idevice _ =>
      some (waitingForRequest buid)
  | pairingAgain _, .file pairingFile => some (verifying pairingFile)
  | verifying pairingFile, .done =>
      match H.serialize pairingFile with
      | .ok data => some (writingFile data)
      | .error err => fail (.rusbmux err)
  | writingFile _, .done => some (ended (.ok ()))
  | readingBuid _, .failed err | removingFile, .failed err
  | writingFile _, .failed err => fail (.rusbmux err)
  | connecting _ _, .idevice err | gettingType _ _, .idevice err
  | startingSession _ _, .idevice err | reconnecting _, .idevice err
  | settingBuid _, .idevice err | gettingVersion _, .idevice err
  | gettingClass _ _, .idevice err | pairing _ _, .idevice err
  | startingService _, .idevice err | connectingNotifications _ _, .idevice err
  | observing _, .idevice err | waitingForRequest _, .idevice err
  | answeringRequest _, .idevice err | pairingAgain _, .idevice err
  | verifying _, .idevice err => fail (.idevice err)
  | _, _ => none

def task (H : PreflightHost file) :
    Dialogue (Pairing file) (PreflightCall file) (PreflightReply file) where
  call := call H
  resume := resume H

-- the many equations are derived here, once for all lemmas that use them
attribute [local simp] resume

/-!
## One reply
-/

inductive Corrupted : IdeviceError -> Prop where
  | rustls (text : String) : Corrupted (.rustls text)
  | tlsBuilderFailed (text : String) : Corrupted (.tlsBuilderFailed text)
  | pemParseFailed (text : String) : Corrupted (.pemParseFailed text)

inductive Pending : IdeviceError -> Prop where
  | passwordProtected : Pending .passwordProtected
  | dialog : Pending .pairingDialogResponsePending

inductive Moves (H : PreflightHost file) :
    Pairing file -> PreflightReply file -> Pairing file -> Prop where
  | ends (p : Pairing file) (r : PreflightReply file)
      (result : Except PreflightError Unit) : Moves H p r (.ended result)
  | parsed {data : List UInt8} {saved : file} (h : H.fromBytes data = .ok saved) :
      Moves H .readingFile (.data data) (.readingBuid (some saved))
  | unparsable {data : List UInt8} {err : String}
      (h : H.fromBytes data = .error err) :
      Moves H .readingFile (.data data) .removingFile
  | absent {err : IoError} (h : err.kind = .notFound) :
      Moves H .readingFile (.failed (.io err)) (.readingBuid none)
  | removed : Moves H .removingFile .done (.readingBuid none)
  | buidRead (saved : Option file) (buid : String) :
      Moves H (.readingBuid saved) (.text buid) (.connecting saved buid)
  | connected (saved : Option file) (buid : String) :
      Moves H (.connecting saved buid) .done (.gettingType saved buid)
  | hasFile (saved : file) (buid : String) :
      Moves H (.gettingType (some saved) buid) (.text lockdownType)
        (.startingSession saved buid)
  | hasNone (buid : String) :
      Moves H (.gettingType none buid) (.text lockdownType) (.settingBuid buid)
  | unknownHost (saved : file) (buid : String) :
      Moves H (.startingSession saved buid) (.idevice .invalidHostId)
        (.settingBuid buid)
  | corrupted (saved : file) (buid : String) {err : IdeviceError}
      (h : Corrupted err) :
      Moves H (.startingSession saved buid) (.idevice err) (.reconnecting buid)
  | reconnected (buid : String) :
      Moves H (.reconnecting buid) .done (.settingBuid buid)
  | buidSet (buid : String) :
      Moves H (.settingBuid buid) .done (.gettingVersion buid)
  | version (buid : String) (value : Plist.Value) (major : Nat) :
      Moves H (.gettingVersion buid) (.value value) (.gettingClass buid major)
  | deviceClass (buid : String) (major : Nat) (value : Plist.Value)
      (name : String) :
      Moves H (.gettingClass buid major) (.value value)
        (.pairing buid (PreflightTask.supportNotifications name major))
  | paired (buid : String) (supportNotifications : Bool) (pairingFile : file) :
      Moves H (.pairing buid supportNotifications) (.file pairingFile)
        (.verifying pairingFile)
  | pending (buid : String) {err : IdeviceError} (h : Pending err) :
      Moves H (.pairing buid true) (.idevice err) (.startingService buid)
  | serviceStarted (buid : String) (port : UInt16) :
      Moves H (.startingService buid) (.port port)
        (.connectingNotifications buid port)
  | serviceConnected (buid : String) (port : UInt16) :
      Moves H (.connectingNotifications buid port) .done (.observing buid)
  | observed (buid : String) :
      Moves H (.observing buid) .done (.waitingForRequest buid)
  | pairRequested (buid : String) :
      Moves H (.waitingForRequest buid) (.text requestPair) (.pairingAgain buid)
  | buidRequested (buid : String) :
      Moves H (.waitingForRequest buid) (.text requestHostBuid)
        (.answeringRequest buid)
  | notified (buid : String) {name : String} (hpair : name ≠ requestPair)
      (hbuid : name ≠ requestHostBuid) :
      Moves H (.waitingForRequest buid) (.text name) (.waitingForRequest buid)
  | timedOut (buid : String) :
      Moves H (.waitingForRequest buid) .timeout (.askingAgain buid)
  | answered (buid : String) :
      Moves H (.answeringRequest buid) .done (.waitingForRequest buid)
  | askedPaired (buid : String) (pairingFile : file) :
      Moves H (.askingAgain buid) (.file pairingFile) (.waitingForRequest buid)
  | askedFailed (buid : String) {err : IdeviceError}
      (h : err ≠ .userDeniedPairing) :
      Moves H (.askingAgain buid) (.idevice err) (.waitingForRequest buid)
  | pairedAgain (buid : String) (pairingFile : file) :
      Moves H (.pairingAgain buid) (.file pairingFile) (.verifying pairingFile)
  | verified {pairingFile : file} {data : List UInt8}
      (h : H.serialize pairingFile = .ok data) :
      Moves H (.verifying pairingFile) .done (.writingFile data)

theorem moves_readingFile {H : PreflightHost file} {r : PreflightReply file}
    {q : Pairing file} (h : resume H .readingFile r = some q) :
    Moves H .readingFile r q := by
  cases r with
  | data data =>
      cases hparse : H.fromBytes data with
      | ok saved =>
          simp only [resume, hparse] at h
          cases h
          exact .parsed hparse
      | error err =>
          simp only [resume, hparse] at h
          cases h
          exact .unparsable hparse
  | failed err =>
      cases err with
      | io err =>
          by_cases hkind : err.kind = .notFound
          · simp only [resume, if_pos hkind] at h
            cases h
            exact .absent hkind
          · simp only [resume, if_neg hkind] at h
            cases h
            exact .ends _ _ _
      | _ => cases h
  | _ => cases h

theorem moves_gettingType {H : PreflightHost file} {saved : Option file}
    {buid : String} {r : PreflightReply file} {q : Pairing file}
    (h : resume H (.gettingType saved buid) r = some q) :
    Moves H (.gettingType saved buid) r q := by
  cases r with
  | text type =>
      by_cases htype : type = lockdownType
      · subst htype
        cases saved with
        | some saved =>
            cases h
            exact .hasFile saved buid
        | none =>
            cases h
            exact .hasNone buid
      · simp only [resume, if_pos htype] at h
        cases h
        exact .ends _ _ _
  | idevice err =>
      cases h
      exact .ends _ _ _
  | _ => cases h

theorem moves_startingSession {H : PreflightHost file} {saved : file}
    {buid : String} {r : PreflightReply file} {q : Pairing file}
    (h : resume H (.startingSession saved buid) r = some q) :
    Moves H (.startingSession saved buid) r q := by
  cases r with
  | done =>
      cases h
      exact .ends _ _ _
  | idevice err =>
      cases err with
      | invalidHostId =>
          cases h
          exact .unknownHost saved buid
      | rustls text =>
          cases h
          exact .corrupted saved buid (.rustls text)
      | tlsBuilderFailed text =>
          cases h
          exact .corrupted saved buid (.tlsBuilderFailed text)
      | pemParseFailed text =>
          cases h
          exact .corrupted saved buid (.pemParseFailed text)
      | _ =>
          cases h
          exact .ends _ _ _
  | _ => cases h

theorem moves_gettingVersion {H : PreflightHost file} {buid : String}
    {r : PreflightReply file} {q : Pairing file}
    (h : resume H (.gettingVersion buid) r = some q) :
    Moves H (.gettingVersion buid) r q := by
  cases r with
  | value value =>
      cases hversion : value.asString.bind productVersionMajor with
      | some major =>
          rcases Option.bind_eq_some_iff.mp hversion with
            ⟨productVersion, htext, hmajor⟩
          simp only [resume, htext, hmajor] at h
          cases h
          exact .version buid value major
      | none =>
          cases htext : value.asString with
          | none =>
              simp only [resume, htext] at h
              cases h
              exact .ends _ _ _
          | some productVersion =>
              rw [htext] at hversion
              change productVersionMajor productVersion = none at hversion
              simp only [resume, htext, hversion] at h
              cases h
              exact .ends _ _ _
  | idevice err =>
      cases h
      exact .ends _ _ _
  | _ => cases h

theorem moves_gettingClass {H : PreflightHost file} {buid : String} {major : Nat}
    {r : PreflightReply file} {q : Pairing file}
    (h : resume H (.gettingClass buid major) r = some q) :
    Moves H (.gettingClass buid major) r q := by
  cases r with
  | value value =>
      cases htext : value.asString with
      | none =>
          simp only [resume, htext] at h
          cases h
          exact .ends _ _ _
      | some deviceClass =>
          simp only [resume, htext] at h
          cases h
          exact .deviceClass buid major value deviceClass
  | idevice err =>
      cases h
      exact .ends _ _ _
  | _ => cases h

theorem moves_pairing {H : PreflightHost file} {buid : String}
    {supportNotifications : Bool} {r : PreflightReply file} {q : Pairing file}
    (h : resume H (.pairing buid supportNotifications) r = some q) :
    Moves H (.pairing buid supportNotifications) r q := by
  have hpending : forall {err : IdeviceError}, Pending err ->
      (if supportNotifications = true then some (startingService buid)
        else some (ended (.ok ()))) = some q ->
      Moves H (.pairing buid supportNotifications) (.idevice err) q := by
    intro err herr hnext
    cases supportNotifications with
    | true =>
        cases hnext
        exact .pending buid herr
    | false =>
        cases hnext
        exact .ends _ _ _
  cases r with
  | file pairingFile =>
      cases h
      exact .paired buid supportNotifications pairingFile
  | idevice err =>
      cases err with
      | passwordProtected => exact hpending .passwordProtected h
      | pairingDialogResponsePending => exact hpending .dialog h
      | _ =>
          cases h
          exact .ends _ _ _
  | _ => cases h

theorem moves_waitingForRequest {H : PreflightHost file} {buid : String}
    {r : PreflightReply file} {q : Pairing file}
    (h : resume H (.waitingForRequest buid) r = some q) :
    Moves H (.waitingForRequest buid) r q := by
  cases r with
  | text name =>
      by_cases hpair : name = requestPair
      · simp only [resume, if_pos hpair] at h
        cases h
        rw [hpair]
        exact .pairRequested buid
      by_cases hbuid : name = requestHostBuid
      · simp only [resume, if_neg hpair, if_pos hbuid] at h
        cases h
        rw [hbuid]
        exact .buidRequested buid
      · simp only [resume, if_neg hpair, if_neg hbuid] at h
        cases h
        exact .notified buid hpair hbuid
  | timeout =>
      cases h
      exact .timedOut buid
  | idevice err =>
      cases h
      exact .ends _ _ _
  | _ => cases h

theorem moves_askingAgain {H : PreflightHost file} {buid : String}
    {r : PreflightReply file} {q : Pairing file}
    (h : resume H (.askingAgain buid) r = some q) :
    Moves H (.askingAgain buid) r q := by
  cases r with
  | file pairingFile =>
      cases h
      exact .askedPaired buid pairingFile
  | idevice err =>
      cases err with
      | userDeniedPairing =>
          cases h
          exact .ends _ _ _
      | _ =>
          cases h
          exact .askedFailed buid nofun
  | _ => cases h

theorem moves_verifying {H : PreflightHost file} {pairingFile : file}
    {r : PreflightReply file} {q : Pairing file}
    (h : resume H (.verifying pairingFile) r = some q) :
    Moves H (.verifying pairingFile) r q := by
  cases r with
  | done =>
      cases hdata : H.serialize pairingFile with
      | ok data =>
          simp only [resume, hdata] at h
          cases h
          exact .verified hdata
      | error err =>
          simp only [resume, hdata] at h
          cases h
          exact .ends _ _ _
  | idevice err =>
      cases h
      exact .ends _ _ _
  | _ => cases h

theorem moves_of_resume {H : PreflightHost file} {p q : Pairing file}
    {r : PreflightReply file} (h : resume H p r = some q) : Moves H p r q := by
  cases p with
  | readingFile => exact moves_readingFile h
  | gettingType saved buid => exact moves_gettingType h
  | startingSession saved buid => exact moves_startingSession h
  | gettingVersion buid => exact moves_gettingVersion h
  | gettingClass buid major => exact moves_gettingClass h
  | pairing buid supportNotifications => exact moves_pairing h
  | waitingForRequest buid => exact moves_waitingForRequest h
  | askingAgain buid => exact moves_askingAgain h
  | verifying pairingFile => exact moves_verifying h
  | ended result => cases h
  | removingFile =>
      cases r <;> cases h
      · exact .removed
      · exact .ends _ _ _
  | readingBuid saved =>
      cases r <;> cases h
      · exact .buidRead saved _
      · exact .ends _ _ _
  | connecting saved buid =>
      cases r <;> cases h
      · exact .connected saved buid
      · exact .ends _ _ _
  | reconnecting buid =>
      cases r <;> cases h
      · exact .reconnected buid
      · exact .ends _ _ _
  | settingBuid buid =>
      cases r <;> cases h
      · exact .buidSet buid
      · exact .ends _ _ _
  | startingService buid =>
      cases r <;> cases h
      · exact .serviceStarted buid _
      · exact .ends _ _ _
  | connectingNotifications buid port =>
      cases r <;> cases h
      · exact .serviceConnected buid port
      · exact .ends _ _ _
  | observing buid =>
      cases r <;> cases h
      · exact .observed buid
      · exact .ends _ _ _
  | answeringRequest buid =>
      cases r <;> cases h
      · exact .answered buid
      · exact .ends _ _ _
  | pairingAgain buid =>
      cases r <;> cases h
      · exact .pairedAgain buid _
      · exact .ends _ _ _
  | writingFile data =>
      cases r <;> cases h
      · exact .ends _ _ _
      · exact .ends _ _ _

/-!
## What the log tells about a place
-/

abbrev Log (file : Type) : Type :=
  Dialogue.Log (PreflightCall file) (PreflightReply file)

def Found (H : PreflightHost file) (log : Log file) : Option file -> Prop
  | some saved => exists data, (.readFile, .data data) ∈ log ∧
      H.fromBytes data = .ok saved
  | none =>
      (exists err : IoError, (.readFile, .failed (.io err)) ∈ log ∧
        err.kind = .notFound) ∨
      exists data err, (.readFile, .data data) ∈ log ∧
        H.fromBytes data = .error err ∧ (.removeFile, .done) ∈ log

def Needed (H : PreflightHost file) (log : Log file) : Prop :=
  Found H log none ∨
    exists saved err, Found H log (some saved) ∧
      (.startSession saved, .idevice err) ∈ log ∧
      (err = .invalidHostId ∨ Corrupted err)

def NoSession (log : Log file) : Prop :=
  forall pairingFile, (.startSession pairingFile, .done) ∉ log

structure Unpaired (H : PreflightHost file) (log : Log file) (buid : String) :
    Prop where
  needed : Needed H log
  lockdown : (.getType, .text lockdownType) ∈ log
  buidRead : (.readSystemBuid, .text buid) ∈ log
  noSession : NoSession log

def Announced (log : Log file) (buid : String) : Prop :=
  (.setValue untrustedHostBuid (.string buid), .done) ∈ log

structure Ready (H : PreflightHost file) (log : Log file) (buid : String) :
    Prop where
  unpaired : Unpaired H log buid
  announced : Announced log buid

/-- The calls that change the device or the pairing file, with their reasons. -/
def Allowed (H : PreflightHost file) (log : Log file) :
    PreflightCall file -> Prop
  | .removeFile =>
      exists data err, log = [(.readFile, .data data)] ∧
        H.fromBytes data = .error err
  | .startSession pairingFile =>
      (Found H log (some pairingFile) ∧ (.getType, .text lockdownType) ∈ log) ∨
        exists before buid, log =
            before ++ [(.pairOnce H.hostId buid, .file pairingFile)] ∧
          Ready H before buid
  | .setValue key value =>
      exists buid, key = untrustedHostBuid ∧ value = .string buid ∧
        Unpaired H log buid
  | .pairOnce hostId buid =>
      hostId = H.hostId ∧ Ready H log buid
  | .writeFile data =>
      exists before buid pairingFile, log =
          before ++ [(.pairOnce H.hostId buid, .file pairingFile),
            (.startSession pairingFile, .done)] ∧
        H.serialize pairingFile = .ok data ∧ Ready H before buid
  | _ => True

theorem NoSession.append {log : Log file} (h : NoSession log)
    {e : PreflightCall file × PreflightReply file}
    (he : forall pairingFile, e ≠ (.startSession pairingFile, .done)) :
    NoSession (log ++ [e]) := by
  intro pairingFile hmem
  rcases List.mem_append.mp hmem with hmem | hmem
  · exact h pairingFile hmem
  · exact he pairingFile (List.mem_singleton.mp hmem).symm

theorem Found.append {H : PreflightHost file} {log : Log file}
    {saved : Option file} (h : Found H log saved)
    (e : PreflightCall file × PreflightReply file) :
    Found H (log ++ [e]) saved := by
  cases saved with
  | some saved =>
      rcases h with ⟨data, hread, hparse⟩
      exact ⟨data, List.mem_append_left _ hread, hparse⟩
  | none =>
      rcases h with ⟨err, hread, hkind⟩ | ⟨data, err, hread, hparse, hremoved⟩
      · exact Or.inl ⟨err, List.mem_append_left _ hread, hkind⟩
      · exact Or.inr ⟨data, err, List.mem_append_left _ hread, hparse,
          List.mem_append_left _ hremoved⟩

theorem Needed.append {H : PreflightHost file} {log : Log file}
    (h : Needed H log) (e : PreflightCall file × PreflightReply file) :
    Needed H (log ++ [e]) := by
  rcases h with hnone | ⟨saved, err, hfound, hsession, herr⟩
  · exact Or.inl (hnone.append e)
  · exact Or.inr ⟨saved, err, hfound.append e,
      List.mem_append_left _ hsession, herr⟩

theorem Unpaired.append {H : PreflightHost file} {log : Log file}
    {buid : String} (h : Unpaired H log buid)
    {e : PreflightCall file × PreflightReply file}
    (he : forall pairingFile, e ≠ (.startSession pairingFile, .done)) :
    Unpaired H (log ++ [e]) buid where
  needed := h.needed.append e
  lockdown := List.mem_append_left _ h.lockdown
  buidRead := List.mem_append_left _ h.buidRead
  noSession := h.noSession.append he

structure Started (H : PreflightHost file) (log : Log file)
    (saved : Option file) (buid : String) : Prop where
  found : Found H log saved
  buidRead : (.readSystemBuid, .text buid) ∈ log
  noSession : NoSession log

theorem Started.append {H : PreflightHost file} {log : Log file}
    {saved : Option file} {buid : String} (h : Started H log saved buid)
    {e : PreflightCall file × PreflightReply file}
    (he : forall pairingFile, e ≠ (.startSession pairingFile, .done)) :
    Started H (log ++ [e]) saved buid where
  found := h.found.append e
  buidRead := List.mem_append_left _ h.buidRead
  noSession := h.noSession.append he

theorem Ready.append {H : PreflightHost file} {log : Log file} {buid : String}
    (h : Ready H log buid) {e : PreflightCall file × PreflightReply file}
    (he : forall pairingFile, e ≠ (.startSession pairingFile, .done)) :
    Ready H (log ++ [e]) buid where
  unpaired := h.unpaired.append he
  announced := List.mem_append_left _ h.announced

def Told (H : PreflightHost file) (log : Log file) : Pairing file -> Prop
  | readingFile => log = []
  | removingFile =>
      exists data err, log = [(.readFile, .data data)] ∧
        H.fromBytes data = .error err
  | readingBuid saved => Found H log saved ∧ NoSession log
  | connecting saved buid | gettingType saved buid => Started H log saved buid
  | startingSession saved buid =>
      Started H log (some saved) buid ∧ (.getType, .text lockdownType) ∈ log
  | reconnecting buid | settingBuid buid => Unpaired H log buid
  | gettingVersion buid | gettingClass buid _ | pairing buid _
  | startingService buid | connectingNotifications buid _ | observing buid
  | waitingForRequest buid | answeringRequest buid | askingAgain buid
  | pairingAgain buid => Ready H log buid
  | verifying pairingFile =>
      exists before buid,
        log = before ++ [(.pairOnce H.hostId buid, .file pairingFile)] ∧
          Ready H before buid
  | writingFile data =>
      exists before buid pairingFile, log =
          before ++ [(.pairOnce H.hostId buid, .file pairingFile),
            (.startSession pairingFile, .done)] ∧
        H.serialize pairingFile = .ok data ∧ Ready H before buid
  | ended _ => True

theorem mem_append_last {alpha : Type} (xs : List alpha) (x : alpha) :
    x ∈ xs ++ [x] :=
  List.mem_append_right _ (List.mem_singleton_self x)

theorem told_keeps (H : PreflightHost file) : (task H).Keeps (Told H) := by
  intro log p c r q h hcall hresume
  cases moves_of_resume hresume with
  | ends p r result => trivial
  | parsed hparse =>
      cases hcall
      cases h
      exact ⟨⟨_, List.mem_singleton_self _, hparse⟩,
        fun _ hmem => nomatch List.mem_singleton.mp hmem⟩
  | unparsable hparse =>
      cases hcall
      cases h
      exact ⟨_, _, rfl, hparse⟩
  | absent hkind =>
      cases hcall
      cases h
      exact ⟨Or.inl ⟨_, List.mem_singleton_self _, hkind⟩,
        fun _ hmem => nomatch List.mem_singleton.mp hmem⟩
  | removed =>
      cases hcall
      rcases h with ⟨data, err, rfl, hparse⟩
      have hread : NoSession [(.readFile, .data data)] :=
        fun (_ : file) hmem => nomatch List.mem_singleton.mp hmem
      exact ⟨Or.inr ⟨data, err, List.mem_cons_self, hparse,
        mem_append_last _ _⟩, hread.append nofun⟩
  | buidRead saved buid =>
      cases hcall
      exact ⟨h.left.append _, mem_append_last _ _, h.right.append nofun⟩
  | connected saved buid =>
      cases hcall
      exact h.append nofun
  | hasFile saved buid =>
      cases hcall
      exact ⟨h.append nofun, mem_append_last _ _⟩
  | hasNone buid =>
      cases hcall
      have hnext := h.append (e := (.getType, .text lockdownType)) nofun
      exact ⟨Or.inl hnext.found, mem_append_last _ _, hnext.buidRead,
        hnext.noSession⟩
  | unknownHost saved buid =>
      cases hcall
      have hnext := h.left.append
        (e := (.startSession saved, .idevice .invalidHostId)) nofun
      exact ⟨Or.inr ⟨saved, _, hnext.found, mem_append_last _ _, Or.inl rfl⟩,
        List.mem_append_left _ h.right, hnext.buidRead, hnext.noSession⟩
  | @corrupted saved buid err herr =>
      cases hcall
      have hnext := h.left.append (e := (.startSession saved, .idevice err))
        nofun
      exact ⟨Or.inr ⟨saved, err, hnext.found, mem_append_last _ _,
        Or.inr herr⟩, List.mem_append_left _ h.right, hnext.buidRead,
        hnext.noSession⟩
  | reconnected buid =>
      cases hcall
      exact h.append nofun
  | buidSet buid =>
      cases hcall
      exact ⟨h.append nofun, mem_append_last _ _⟩
  | paired buid supportNotifications pairingFile =>
      cases hcall
      exact ⟨log, buid, rfl, h⟩
  | pairedAgain buid pairingFile =>
      cases hcall
      exact ⟨log, buid, rfl, h⟩
  | verified hdata =>
      cases hcall
      rcases h with ⟨before, buid, rfl, hready⟩
      exact ⟨before, buid, _, List.append_assoc _ _ _, hdata, hready⟩
  | version buid value major =>
      cases hcall
      exact h.append nofun
  | deviceClass buid major value name =>
      cases hcall
      exact h.append nofun
  | pending buid herr =>
      cases hcall
      exact h.append nofun
  | serviceStarted buid port =>
      cases hcall
      exact h.append nofun
  | serviceConnected buid port =>
      cases hcall
      exact h.append nofun
  | observed buid =>
      cases hcall
      exact h.append nofun
  | pairRequested buid =>
      cases hcall
      exact h.append nofun
  | buidRequested buid =>
      cases hcall
      exact h.append nofun
  | notified buid hpair hbuid =>
      cases hcall
      exact h.append nofun
  | timedOut buid =>
      cases hcall
      exact h.append nofun
  | answered buid =>
      cases hcall
      exact h.append nofun
  | askedPaired buid pairingFile =>
      cases hcall
      exact h.append nofun
  | askedFailed buid herr =>
      cases hcall
      exact h.append nofun

theorem allowed_of_told {H : PreflightHost file} {log : Log file}
    {p : Pairing file} {c : PreflightCall file} (h : Told H log p)
    (hcall : call H p = some c) : Allowed H log c := by
  cases p with
  | removingFile =>
      cases hcall
      exact h
  | startingSession saved buid =>
      cases hcall
      exact Or.inl ⟨h.left.found, h.right⟩
  | settingBuid buid =>
      cases hcall
      exact ⟨buid, rfl, rfl, h⟩
  | answeringRequest buid =>
      cases hcall
      exact ⟨buid, rfl, rfl, h.unpaired⟩
  | pairing buid supportNotifications =>
      cases hcall
      exact ⟨rfl, h⟩
  | askingAgain buid =>
      cases hcall
      exact ⟨rfl, h⟩
  | pairingAgain buid =>
      cases hcall
      exact ⟨rfl, h⟩
  | verifying pairingFile =>
      cases hcall
      exact Or.inr h
  | writingFile data =>
      cases hcall
      exact h
  | ended result => cases hcall
  | _ =>
      cases hcall
      trivial

/--
Whatever the device and the file system answer, each call that changes one of
them has its reason in what was answered before.
-/
theorem calls_allowed {H : PreflightHost file}
    {replies : List (PreflightReply file)}
    {t : Dialogue.Conversation (Pairing file) (PreflightCall file)
      (PreflightReply file)}
    (hrun : Machine.run (task H).step { place := .readingFile } replies =
      some t) :
    Dialogue.Justified (Allowed H) t.log :=
  Dialogue.run_justified (told_keeps H)
    (fun _ _ _ h hcall => allowed_of_told h hcall)
    (show Told H [] .readingFile from rfl) hrun

def rawHost : PreflightHost (List UInt8) where
  fromBytes data := if data = [] then .error "empty" else .ok data
  serialize data := .ok data
  hostId := "HOST"

def slowUser : List (PreflightReply (List UInt8)) :=
  [.data [], .done, .text "BUID", .done, .text lockdownType, .done,
    .value (.string "17.5.1"), .value (.string "iPhone"),
    .idevice .pairingDialogResponsePending, .port 49152, .done, .done,
    .text requestHostBuid, .done, .timeout,
    .idevice .pairingDialogResponsePending, .text requestPair, .file [1, 2],
    .done, .done]

def slowUserEnd : Dialogue.Conversation (Pairing (List UInt8))
    (PreflightCall (List UInt8)) (PreflightReply (List UInt8)) :=
  (Machine.run (task rawHost).step { place := .readingFile } slowUser).getD
    { place := .readingFile }

theorem run_slowUser :
    Machine.run (task rawHost).step { place := .readingFile } slowUser =
      some slowUserEnd := rfl

theorem calls_allowed_slowUser :
    Dialogue.Justified (Allowed rawHost) slowUserEnd.log :=
  calls_allowed run_slowUser

end Pairing

end Watcher
end Rusbmux
