import Mathlib.Logic.Function.Basic
import Rusbmux.Device.Device
import Rusbmux.Error
import Rusbmux.Foundation.Machine

/-!
# Watching for network devices

The loop of `watch_network`.  It keeps the id of every announced MAC address and
one future for every device it has handed out, which completes with the MAC
address once the device's token is cancelled.  Tokens are cancelled at any time,
completed futures are picked up in any order, and the outcome of resolving a
service and of opening a device is part of the action.
-/

namespace Rusbmux
namespace Watcher

open Foundation

inductive NetworkEvent where
  | connected (dev : NetworkDevice)
  | disconnected (id : UInt64)
  | failed (err : RusbmuxError)

inductive Cause where
  | resolved (macAddress : String)
  | removed (macAddress : String)
  | cancelled (id : UInt64)
  | shutDown
deriving DecidableEq, Repr

structure ResolvedDevice where
  networkAddress : List UInt8
  scopeId : UInt32
  macAddress : String
  serviceName : String
  udid : String
deriving DecidableEq, Repr

def ResolvedDevice.device (rd : ResolvedDevice) (id : UInt64) :
    NetworkDevice where
  id := id
  udid := rd.udid
  macAddress := rd.macAddress
  serviceName := rd.serviceName
  scopeId := some rd.scopeId
  networkAddress := rd.networkAddress

abbrev EventLog : Type :=
  List (NetworkEvent × Cause)

structure NetworkWatch where
  devicesIdMap : String -> Option UInt64 := fun _ => none
  devsCanceler : List (String × UInt64) := []
  cancelled : List UInt64 := []
  log : EventLog := []
  closed : Bool := false
  ended : Bool := false

def macOfName (name : String) : String :=
  String.ofList (name.toList.takeWhile fun c => c ≠ '@')

namespace EventLog

def handedOut : EventLog -> List NetworkDevice
  | [] => []
  | (.connected dev, _) :: rest => dev :: handedOut rest
  | (.disconnected _, _) :: rest | (.failed _, _) :: rest => handedOut rest

def connectedNow : EventLog -> List NetworkDevice
  | [] => []
  | (.connected dev, _) :: rest => dev :: connectedNow rest
  | (.disconnected id, _) :: rest =>
      (connectedNow rest).filter fun dev => dev.id ≠ id
  | (.failed _, _) :: rest => connectedNow rest

/--
Every disconnection is of a connected device, and comes from the removal of
its service or from its own token.
-/
def Justified : EventLog -> Prop
  | [] => True
  | (.disconnected id, cause) :: rest =>
      (exists dev, dev ∈ connectedNow rest ∧ dev.id = id ∧
        (cause = .removed dev.macAddress ∨ cause = .cancelled id)) ∧
        Justified rest
  | (.connected _, _) :: rest | (.failed _, _) :: rest => Justified rest

theorem mem_handedOut_of_connectedNow {log : EventLog} {dev : NetworkDevice}
    (h : dev ∈ connectedNow log) : dev ∈ handedOut log := by
  induction log with
  | nil => cases h
  | cons entry rest ih =>
      rcases entry with ⟨event, cause⟩
      cases event with
      | connected first =>
          rcases List.mem_cons.mp h with rfl | h
          · exact List.mem_cons_self
          · exact List.mem_cons_of_mem _ (ih h)
      | disconnected id => exact ih (List.mem_filter.mp h).left
      | failed err => exact ih h

end EventLog

namespace NetworkWatch

open EventLog

inductive Action where
  /-- `ServiceEvent::ServiceResolved`; the id is the next of the counter. -/
  | resolved (rd : Option ResolvedDevice) (id : UInt64)
      (opened : Except RusbmuxError Unit)
  /-- `ServiceEvent::ServiceRemoved`. -/
  | removed (name : String)
  | cancel (id : UInt64)
  | pickUp (id : UInt64)
  | closeBrowser
  | finish

def isFresh (s : NetworkWatch) (id : UInt64) : Bool :=
  s.log.handedOut.all fun dev => dev.id ≠ id

def cancelerOf (s : NetworkWatch) (id : UInt64) : Option (String × UInt64) :=
  s.devsCanceler.find? fun canceler => canceler.snd = id

def disconnect (s : NetworkWatch) (macAddress : String) (cause : Cause) :
    NetworkWatch :=
  match s.devicesIdMap macAddress with
  | none => s
  | some id =>
      { s with
        devicesIdMap := Function.update s.devicesIdMap macAddress none
        log := (.disconnected id, cause) :: s.log }

def resolved (s : NetworkWatch) (rd : ResolvedDevice) (id : UInt64)
    (opened : Except RusbmuxError Unit) : Option NetworkWatch :=
  if (s.devicesIdMap rd.macAddress).isSome then some s
  else if !s.isFresh id then none
  else
    match opened with
    | .error err =>
        some { s with log := (.failed err, .resolved rd.macAddress) :: s.log }
    | .ok () =>
        some { s with
          devsCanceler := (rd.macAddress, id) :: s.devsCanceler
          devicesIdMap :=
            Function.update s.devicesIdMap rd.macAddress (some id)
          log := (.connected (rd.device id), .resolved rd.macAddress) :: s.log }

def pickUp (s : NetworkWatch) (id : UInt64) : Option NetworkWatch :=
  match s.cancelerOf id with
  | none => none
  | some (macAddress, _) =>
      if id ∈ s.cancelled then
        some (disconnect
          { s with devsCanceler := s.devsCanceler.filter fun canceler =>
              canceler.snd ≠ id }
          macAddress (.cancelled id))
      else
        none

def finish (s : NetworkWatch) : Option NetworkWatch :=
  if s.closed && s.devsCanceler.isEmpty && !s.ended then
    some { s with
      ended := true
      log := (.failed (.mdns "daemon shutdown"), .shutDown) :: s.log }
  else
    none

def step : Machine NetworkWatch Action := fun s a =>
  match a with
  | .resolved none _ _ => if s.closed then none else some s
  | .resolved (some rd) id opened =>
      if s.closed then none else s.resolved rd id opened
  | .removed name =>
      if s.closed then none
      else some (s.disconnect (macOfName name) (.removed (macOfName name)))
  | .cancel id =>
      if s.isFresh id then none
      else some { s with cancelled := id :: s.cancelled }
  | .pickUp id => s.pickUp id
  | .closeBrowser => some { s with closed := true }
  | .finish => s.finish

/-- Every yielded disconnection is justified. -/
def DisconnectsJustified (s : NetworkWatch) : Prop :=
  s.log.Justified

/--
A future is picked up while its MAC address is forgotten or still belongs to
the device of the future.
-/
def PicksUpOwn (s : NetworkWatch) : Action -> Prop
  | .pickUp id =>
      forall canceler other, s.cancelerOf id = some canceler ->
        s.devicesIdMap canceler.fst = some other -> other = id
  | .resolved _ _ _ | .removed _ | .cancel _ | .closeBrowser | .finish => True

structure Invariant (s : NetworkWatch) : Prop where
  justified : s.log.Justified
  id_unique : forall d e, d ∈ s.log.connectedNow -> e ∈ s.log.connectedNow ->
    d.id = e.id -> d = e
  map_connected : forall macAddress id,
    s.devicesIdMap macAddress = some id ->
      exists dev, dev ∈ s.log.connectedNow ∧ dev.id = id ∧
        dev.macAddress = macAddress

namespace Invariant

variable {s : NetworkWatch}

theorem init : Invariant {} where
  justified := trivial
  id_unique := fun d _ hd => by cases hd
  map_connected := fun _ _ h => by cases h

theorem of_eq {t : NetworkWatch} (h : Invariant s)
    (hmap : t.devicesIdMap = s.devicesIdMap) (hlog : t.log = s.log) :
    Invariant t := by
  constructor
  · rw [hlog]
    exact h.justified
  · rw [hlog]
    exact h.id_unique
  · rw [hlog, hmap]
    exact h.map_connected

theorem failed {t : NetworkWatch} {err : RusbmuxError} {cause : Cause}
    (h : Invariant s) (hmap : t.devicesIdMap = s.devicesIdMap)
    (hlog : t.log = (.failed err, cause) :: s.log) : Invariant t := by
  constructor
  · rw [hlog]
    exact h.justified
  · rw [hlog]
    exact h.id_unique
  · rw [hlog, hmap]
    exact h.map_connected

theorem disconnect (h : Invariant s) {macAddress : String} {cause : Cause}
    (hcause : forall id, s.devicesIdMap macAddress = some id ->
      cause = .removed macAddress ∨ cause = .cancelled id) :
    Invariant (s.disconnect macAddress cause) := by
  unfold NetworkWatch.disconnect
  cases hid : s.devicesIdMap macAddress with
  | none => exact h
  | some id =>
      rcases h.map_connected macAddress id hid with ⟨dev, hdev, rfl, rfl⟩
      constructor
      · exact ⟨⟨dev, hdev, rfl, hcause dev.id hid⟩, h.justified⟩
      · intro d e hd he
        exact h.id_unique d e (List.mem_filter.mp hd).left
          (List.mem_filter.mp he).left
      · intro other id hother
        by_cases hsame : other = dev.macAddress
        · subst other
          simp at hother
        · have hother' : s.devicesIdMap other = some id := by
            simpa [Function.update_of_ne hsame] using hother
          rcases h.map_connected other id hother' with ⟨e, he, rfl, rfl⟩
          refine ⟨e, List.mem_filter.mpr ⟨he, ?_⟩, rfl, rfl⟩
          apply decide_eq_true
          intro heid
          apply hsame
          rw [h.id_unique e dev he hdev heid]

theorem connected {t : NetworkWatch} (h : Invariant s) {rd : ResolvedDevice}
    {id : UInt64} (hfresh : s.isFresh id = true)
    (hmap : t.devicesIdMap =
      Function.update s.devicesIdMap rd.macAddress (some id))
    (hlog : t.log =
      (.connected (rd.device id), .resolved rd.macAddress) :: s.log) :
    Invariant t := by
  have hnew : forall dev, dev ∈ s.log.connectedNow -> dev.id ≠ id := by
    intro dev hdev
    have hall := List.all_eq_true.mp hfresh dev
      (EventLog.mem_handedOut_of_connectedNow hdev)
    exact of_decide_eq_true hall
  constructor
  · rw [hlog]
    exact h.justified
  · rw [hlog]
    intro d e hd he hid
    rcases List.mem_cons.mp hd with rfl | hd
    · rcases List.mem_cons.mp he with rfl | he
      · rfl
      · exact absurd hid.symm (hnew e he)
    · rcases List.mem_cons.mp he with rfl | he
      · exact absurd hid (hnew d hd)
      · exact h.id_unique d e hd he hid
  · rw [hlog, hmap]
    intro macAddress other hother
    rcases of_update_eq_some hother with ⟨rfl, rfl⟩ | ⟨_, hstill⟩
    · exact ⟨rd.device other, List.mem_cons_self, rfl, rfl⟩
    · rcases h.map_connected macAddress other hstill with
        ⟨dev, hdev, hid, hmac⟩
      exact ⟨dev, List.mem_cons_of_mem _ hdev, hid, hmac⟩

end Invariant

theorem pickUp_eq_some {s t : NetworkWatch} {id : UInt64}
    (hstep : s.pickUp id = some t) :
    exists canceler, s.cancelerOf id = some canceler ∧
      t = disconnect
        { s with devsCanceler := s.devsCanceler.filter fun canceler =>
            canceler.snd ≠ id }
        canceler.fst (.cancelled id) := by
  unfold pickUp at hstep
  cases hcanceler : s.cancelerOf id with
  | none =>
      rw [hcanceler] at hstep
      cases hstep
  | some canceler =>
      rw [hcanceler] at hstep
      simp only at hstep
      split at hstep
      · exact ⟨canceler, rfl, (Option.some.inj hstep).symm⟩
      · cases hstep

theorem invariant_resolved {s t : NetworkWatch} {rd : ResolvedDevice}
    {id : UInt64} {opened : Except RusbmuxError Unit} (h : Invariant s)
    (hstep : s.resolved rd id opened = some t) : Invariant t := by
  unfold resolved at hstep
  split at hstep
  · cases hstep
    exact h
  · rcases Machine.of_disabled_if hstep with ⟨hfresh, hopened⟩
    cases opened with
    | error err =>
        cases hopened
        exact h.failed rfl rfl
    | ok _ =>
        cases hopened
        exact h.connected (by simpa using hfresh) rfl rfl

theorem invariant_step {s t : NetworkWatch} {a : Action} (h : Invariant s)
    (hstep : step s a = some t) (hguard : s.PicksUpOwn a) : Invariant t := by
  cases a with
  | resolved rd id opened =>
      cases rd with
      | none =>
          cases (Machine.of_disabled_if hstep).right
          exact h
      | some rd => exact invariant_resolved h (Machine.of_disabled_if hstep).right
  | removed name =>
      cases (Machine.of_disabled_if hstep).right
      exact h.disconnect fun _ _ => Or.inl rfl
  | cancel id =>
      cases (Machine.of_disabled_if hstep).right
      exact h.of_eq rfl rfl
  | pickUp id =>
      rcases pickUp_eq_some hstep with ⟨canceler, hcanceler, rfl⟩
      have hpicked : Invariant
          { s with devsCanceler := s.devsCanceler.filter fun canceler =>
              canceler.snd ≠ id } := h.of_eq rfl rfl
      apply hpicked.disconnect
      intro other hother
      rw [hguard canceler other hcanceler hother]
      exact Or.inr rfl
  | closeBrowser =>
      cases hstep
      exact h.of_eq rfl rfl
  | finish =>
      cases (Machine.of_enabled_if hstep).right
      exact h.failed rfl rfl

theorem not_justified_of_foreign {s t : NetworkWatch} {a : Action}
    (hstep : step s a = some t) (hguard : ¬ s.PicksUpOwn a) :
    ¬ t.DisconnectsJustified := by
  cases a with
  | pickUp id =>
      rcases pickUp_eq_some hstep with ⟨canceler, hcanceler, rfl⟩
      intro hjustified
      apply hguard
      intro canceler' other hcanceler' hother
      rw [hcanceler] at hcanceler'
      cases hcanceler'
      unfold DisconnectsJustified disconnect at hjustified
      simp only [hother] at hjustified
      rcases hjustified.left with ⟨dev, _, _, hcause | hcause⟩
      · cases hcause
      · cases hcause
        rfl
  | resolved rd id opened => exact absurd trivial hguard
  | removed name => exact absurd trivial hguard
  | cancel id => exact absurd trivial hguard
  | closeBrowser => exact absurd trivial hguard
  | finish => exact absurd trivial hguard

/--
Every disconnection of a run is justified, exactly if every future is picked up
while its MAC address is forgotten or still belongs to its device.
-/
theorem disconnectsJustified_iff (actions : List Action) :
    Machine.Throughout step DisconnectsJustified {} actions <->
      Machine.Guarded step PicksUpOwn {} actions :=
  Machine.throughout_iff_guarded (J := Invariant)
    (fun _ h => h.justified) (fun _ _ _ => invariant_step)
    (fun _ _ _ _ => not_justified_of_foreign) Invariant.init actions

def phone : ResolvedDevice where
  networkAddress := [192, 168, 1, 7]
  scopeId := 2
  macAddress := "a4:83:e7:00:00:01"
  serviceName := "a4:83:e7:00:00:01@fe80::1._apple-mobdev2._tcp.local."
  udid := "00008101"

/--
A device is removed, announced again under a new id, and then disconnected by
the token of its first announcement.
-/
theorem not_disconnectsJustified_reannounced :
    ¬ forall actions,
      Machine.Throughout step DisconnectsJustified {} actions := by
  intro h
  have hlast := (h
    [.resolved (some phone) 1 (.ok ()), .removed phone.serviceName, .cancel 1,
      .resolved (some phone) 2 (.ok ()), .pickUp 1]).last rfl
  rcases hlast.left with ⟨dev, _, _, hcause | hcause⟩
  · cases hcause
  · cases hcause

end NetworkWatch

end Watcher
end Rusbmux
