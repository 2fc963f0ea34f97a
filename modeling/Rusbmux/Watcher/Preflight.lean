import Mathlib.Data.Option.Basic

/-!
# The preflight task

The task that `preflight::spawn` starts for a connected device, by the call it
waits for: `run` reads the pairing file and the BUID, `preflight` connects to
the device over a provider and pairs with it, and `run` writes the new pairing
file.  What the awaited calls return is the answer of a step.
-/

namespace Rusbmux
namespace Watcher

inductive PreflightTask where
  | notSpawned
  | readingFile
  | removingFile
  | readingBuid (paired : Bool)
  /-- In `LockdownClient::connect`, which connects over the provider. -/
  | connecting (paired : Bool)
  | gettingType (paired : Bool)
  | startingSession
  /-- In a second `LockdownClient::connect`, with the first client alive. -/
  | reconnecting
  | settingBuid
  | gettingVersion
  | gettingClass (productVersionMajor : Nat)
  | pairing (supportNotifications : Bool)
  | startingService
  | connectingNotifications
  | observing
  | waitingForRequest
  | pairingAgain
  | verifying
  /-- `preflight` has returned, and `run` writes the pairing file. -/
  | writingFile
  /-- `run` has returned, or the token was seen. -/
  | ended
deriving DecidableEq, Repr

inductive PreflightAnswer where
  | ok
  /-- An error that `?` returns. -/
  | failed
  | unparsable
  | notFound
  | type (name : String)
  | invalidHostId
  | corrupted
  | version (major : Option Nat)
  | deviceClass (name : String)
  | dialogPending
deriving DecidableEq, Repr

namespace PreflightTask

def supportNotifications (deviceClass : String) (productVersionMajor : Nat) :
    Bool :=
  ((deviceClass = "iPhone" || deviceClass = "iPad") &&
      7 <= productVersionMajor) ||
    (deviceClass = "Watch" && 2 <= productVersionMajor) ||
    (deviceClass = "AppleTV" && 9 <= productVersionMajor)

def next : PreflightTask -> PreflightAnswer -> Option PreflightTask
  | notSpawned, _ | ended, _ => none
  | _, .failed => some ended
  | readingFile, .ok => some (readingBuid true)
  | readingFile, .unparsable => some removingFile
  | readingFile, .notFound => some (readingBuid false)
  | removingFile, .ok => some (readingBuid false)
  | readingBuid paired, .ok => some (connecting paired)
  | connecting paired, .ok => some (gettingType paired)
  | gettingType paired, .type name =>
      -- any other type is that of a device in restore mode
      if name ≠ "com.apple.mobile.lockdown" then some ended
      else some (if paired then startingSession else settingBuid)
  | startingSession, .ok => some ended
  | startingSession, .invalidHostId => some settingBuid
  | startingSession, .corrupted => some reconnecting
  | reconnecting, .ok => some settingBuid
  | settingBuid, .ok => some gettingVersion
  | gettingVersion, .version (some major) => some (gettingClass major)
  | gettingVersion, .version none => some ended
  | gettingClass major, .deviceClass name =>
      some (pairing (supportNotifications name major))
  | pairing _, .ok => some verifying
  | pairing true, .dialogPending => some startingService
  | pairing false, .dialogPending => some ended
  | startingService, .ok => some connectingNotifications
  | connectingNotifications, .ok => some observing
  | observing, .ok => some waitingForRequest
  | waitingForRequest, .ok => some pairingAgain
  | pairingAgain, .ok => some verifying
  | verifying, .ok => some writingFile
  | writingFile, .ok => some ended
  | _, _ => none

theorem ne_of_next {p q : PreflightTask} {answer : PreflightAnswer}
    (h : next p answer = some q) : p ≠ q := by
  rintro rfl
  revert h
  fun_cases next p answer with
  | case3 p hspawned hended => simpa using fun h => hended h.symm
  | case11 paired name htype => cases paired <;> simp
  | _ => simp

/-!
## What the task holds of its device
-/

def holdsDevice : PreflightTask -> Bool
  | notSpawned | writingFile | ended => false
  | _ => true

def streams : PreflightTask -> Nat
  | notSpawned | readingFile | removingFile | readingBuid _ | connecting _
  | writingFile | ended => 0
  | observing | waitingForRequest | pairingAgain => 2
  | gettingType _ | startingSession | reconnecting | settingBuid
  | gettingVersion | gettingClass _ | pairing _ | startingService
  | connectingNotifications | verifying => 1

def connects : PreflightTask -> Nat
  | connecting _ | reconnecting | connectingNotifications => 1
  | _ => 0

def beforeConnecting : PreflightTask -> Bool
  | readingFile | removingFile | readingBuid _ => true
  | _ => false

def beforeConnected : PreflightTask -> Bool
  | readingFile | removingFile | readingBuid _ | connecting _ => true
  | _ => false

/--
A task holds nothing of its device, or it holds the device and has not opened
its first stream, or it holds a stream next to the device.
-/
theorem standing (p : PreflightTask) :
    (p.holdsDevice = false ∧ p.streams = 0 ∧ p.connects = 0) ∨
      (p.holdsDevice = true ∧ p.beforeConnected = true ∧ p.streams = 0 ∧
        (p.beforeConnecting = true <-> p.connects = 0)) ∨
      (p.holdsDevice = true ∧ p.beforeConnected = false ∧
        p.beforeConnecting = false ∧ 1 <= p.streams) := by
  cases p <;> simp [holdsDevice, streams, connects, beforeConnecting,
    beforeConnected]

end PreflightTask

end Watcher
end Rusbmux
