import Mathlib.Logic.Function.Basic
import Rusbmux.Device.Device
import Rusbmux.Error
import Rusbmux.Foundation.Alternation
import Rusbmux.Foundation.Machine

/-!
# Watching for USB devices

The loop of `watch_usb` with the stream of the backend it polls and the reader
loops of the devices it opens.  The backend gives every arriving device an id and
keeps it by the opaque id of the device until the device leaves; a reader loop
that fails reports its device over a bounded channel.  Which source is polled
next and how an attempt to open a device ends are part of the action.
-/

namespace Rusbmux
namespace Watcher

open Foundation

structure DeviceInfo where
  opaqueId : UInt64
  udid : Option String
  speed : Option UInt64 := none
  locationId : UInt32 := 0
  productId : UInt16 := 0
deriving DecidableEq, Repr

structure IODisconnectedDevice where
  id : UInt64
  opaqueId : UInt64
deriving DecidableEq, Repr

inductive UsbEvent where
  | connected (device : UsbDevice) (id : UInt64)
  | disconnected (id : UInt64) (opaqueId : Option UInt64) (ioDisconnect : Bool)
deriving DecidableEq, Repr

def UsbEvent.mark : Except RusbmuxError UsbEvent -> Option (UInt64 × Bool)
  | .ok (.connected _ id) => some (id, true)
  | .ok (.disconnected id _ _) => some (id, false)
  | .error _ => none

/--
`UsbDevice::new_with_disconnect_tx`.  `ready` is the outcome of opening the
device and of exchanging the version and setup packets with it.
-/
def newUsbWithDisconnectTx (info : DeviceInfo) (id : UInt64)
    (ready : Except RusbmuxError Unit) : Except RusbmuxError UsbDevice :=
  match info.udid with
  | none => .error (.invalidData "USB device has no serial number")
  | some udid =>
      match ready with
      | .error err => .error err
      | .ok () =>
          .ok
            { id := id
              udid := udid
              speed := info.speed
              locationId := info.locationId
              productId := info.productId }

inductive Phase where
  /-- In `select!`. -/
  | selecting
  | opening (info : DeviceInfo) (id : UInt64)
  | retrying (firstError : RusbmuxError) (opaqueId id : UInt64)
  | reopening (opaqueId id : UInt64)
deriving DecidableEq, Repr

def Phase.pendingId : Phase -> Option UInt64
  | .selecting => none
  | .opening _ id | .retrying _ _ id | .reopening _ id => some id

structure UsbWatch where
  phase : Phase := .selecting
  devicesIdMap : UInt64 -> Option UInt64 := fun _ => none
  issued : List UInt64 := []
  readers : List IODisconnectedDevice := []
  disconnected : List IODisconnectedDevice := []
  /-- The ids whose last attempt succeeded with no loss taken up since. -/
  opened : List UInt64 := []
  yielded : List (Except RusbmuxError UsbEvent) := []

namespace UsbWatch

def disconnectedCapacity : Nat := 32

inductive Action where
  | hotplugConnected (info : DeviceInfo) (id : UInt64)
  | hotplugDisconnected (opaqueId : UInt64)
  | hotplugFailed (err : RusbmuxError)
  | firstAttempt (ready : Except RusbmuxError Unit)
  | retry (devices : List DeviceInfo) (ready : Except RusbmuxError Unit)
  | deadline
  | recvDisconnected
  | reopen (devices : List DeviceInfo) (ready : Except RusbmuxError Unit)
  | readerFails (reader : IODisconnectedDevice)
  | readerCancelled (reader : IODisconnectedDevice)

def yieldItem (s : UsbWatch) (item : Except RusbmuxError UsbEvent) : UsbWatch :=
  { s with yielded := s.yielded ++ [item] }

def connect (s : UsbWatch) (device : UsbDevice) (id opaqueId : UInt64) :
    UsbWatch :=
  { s with
    phase := .selecting
    readers := { id := id, opaqueId := opaqueId } :: s.readers
    opened := id :: s.opened
    yielded := s.yielded ++ [.ok (.connected device id)] }

def disconnect (s : UsbWatch) (id : UInt64) (opaqueId : Option UInt64)
    (ioDisconnect : Bool) : UsbWatch :=
  { s with
    opened := s.opened.filter fun other => other ≠ id
    yielded :=
      s.yielded ++ [.ok (.disconnected id opaqueId ioDisconnect)] }

def findDevice (devices : List DeviceInfo) (opaqueId : UInt64) :
    Option DeviceInfo :=
  devices.find? fun device => device.opaqueId = opaqueId

def hotplugConnected (s : UsbWatch) (info : DeviceInfo) (id : UInt64) :
    Option UsbWatch :=
  match s.phase with
  | .selecting =>
      if id ∈ s.issued then none
      else
        some { s with
          phase := .opening info id
          devicesIdMap :=
            Function.update s.devicesIdMap info.opaqueId (some id)
          issued := id :: s.issued }
  | .opening _ _ | .retrying _ _ _ | .reopening _ _ => none

def hotplugDisconnected (s : UsbWatch) (opaqueId : UInt64) : Option UsbWatch :=
  match s.phase with
  | .selecting =>
      match s.devicesIdMap opaqueId with
      | none => some s
      | some id =>
          some (disconnect
            { s with
              devicesIdMap := Function.update s.devicesIdMap opaqueId none }
            id none false)
  | .opening _ _ | .retrying _ _ _ | .reopening _ _ => none

def hotplugFailed (s : UsbWatch) (err : RusbmuxError) : Option UsbWatch :=
  match s.phase with
  | .selecting => some (s.yieldItem (.error err))
  | .opening _ _ | .retrying _ _ _ | .reopening _ _ => none

def firstAttempt (s : UsbWatch) (ready : Except RusbmuxError Unit) :
    Option UsbWatch :=
  match s.phase with
  | .opening info id =>
      match newUsbWithDisconnectTx info id ready with
      | .ok device => some (s.connect device id info.opaqueId)
      | .error err => some { s with phase := .retrying err info.opaqueId id }
  | .selecting | .retrying _ _ _ | .reopening _ _ => none

def retry (s : UsbWatch) (devices : List DeviceInfo)
    (ready : Except RusbmuxError Unit) : Option UsbWatch :=
  match s.phase with
  | .retrying _ opaqueId id =>
      match findDevice devices opaqueId with
      | none => some s
      | some info =>
          match newUsbWithDisconnectTx info id ready with
          | .ok device => some (s.connect device id opaqueId)
          | .error _ => some s
  | .selecting | .opening _ _ | .reopening _ _ => none

def deadline (s : UsbWatch) : Option UsbWatch :=
  match s.phase with
  | .retrying firstError _ _ =>
      some ({ s with phase := .selecting }.yieldItem (.error firstError))
  | .selecting | .opening _ _ | .reopening _ _ => none

def recvDisconnected (s : UsbWatch) : Option UsbWatch :=
  match s.phase with
  | .selecting =>
      match s.disconnected with
      | [] => none
      | device :: rest =>
          some (disconnect
            { s with
              phase := .reopening device.opaqueId device.id
              disconnected := rest }
            device.id (some device.opaqueId) true)
  | .opening _ _ | .retrying _ _ _ | .reopening _ _ => none

def reopen (s : UsbWatch) (devices : List DeviceInfo)
    (ready : Except RusbmuxError Unit) : Option UsbWatch :=
  match s.phase with
  | .reopening opaqueId id =>
      match findDevice devices opaqueId with
      | none => some { s with phase := .selecting }
      | some info =>
          match newUsbWithDisconnectTx info id ready with
          | .ok device => some (s.connect device id opaqueId)
          | .error err =>
              some ({ s with phase := .selecting }.yieldItem (.error err))
  | .selecting | .opening _ _ | .retrying _ _ _ => none

def readerFails (s : UsbWatch) (reader : IODisconnectedDevice) :
    Option UsbWatch :=
  if reader ∈ s.readers ∧ s.disconnected.length < disconnectedCapacity then
    some { s with
      readers := s.readers.erase reader
      disconnected := s.disconnected ++ [reader] }
  else
    none

def readerCancelled (s : UsbWatch) (reader : IODisconnectedDevice) :
    Option UsbWatch :=
  if reader ∈ s.readers then
    some { s with readers := s.readers.erase reader }
  else
    none

def step : Machine UsbWatch Action := fun s a =>
  match a with
  | .hotplugConnected info id => s.hotplugConnected info id
  | .hotplugDisconnected opaqueId => s.hotplugDisconnected opaqueId
  | .hotplugFailed err => s.hotplugFailed err
  | .firstAttempt ready => s.firstAttempt ready
  | .retry devices ready => s.retry devices ready
  | .deadline => s.deadline
  | .recvDisconnected => s.recvDisconnected
  | .reopen devices ready => s.reopen devices ready
  | .readerFails reader => s.readerFails reader
  | .readerCancelled reader => s.readerCancelled reader

/-- The events of every id alternate, a connection first. -/
def EventsAlternate (s : UsbWatch) : Prop :=
  forall id, Alternates (marksOf UsbEvent.mark id s.yielded)

/--
A loss is taken up for a device that is open: its last attempt succeeded and no
loss of it was taken up since.
-/
def LosesOpened (s : UsbWatch) : Action -> Prop
  | .hotplugDisconnected opaqueId =>
      forall id, s.devicesIdMap opaqueId = some id -> id ∈ s.opened
  | .recvDisconnected =>
      forall device, s.disconnected.head? = some device ->
        device.id ∈ s.opened
  | .hotplugConnected _ _ | .hotplugFailed _ | .firstAttempt _ | .retry _ _
  | .deadline | .reopen _ _ | .readerFails _ | .readerCancelled _ => True

/-!
## The invariant
-/

def Known (s : UsbWatch) (id : UInt64) : Prop :=
  id ∈ s.opened ∨ s.phase.pendingId = some id ∨
    exists reader, reader ∈ s.readers ++ s.disconnected ∧ reader.id = id

structure Invariant (s : UsbWatch) : Prop where
  alternating : Alternating UsbEvent.mark s.yielded s.opened
  known_issued : forall id, s.Known id -> id ∈ s.issued
  pending_closed : forall id, s.phase.pendingId = some id -> id ∉ s.opened

namespace Invariant

variable {s t : UsbWatch}

theorem init : Invariant {} where
  alternating := Alternating.nil
  known_issued := by
    intro id hid
    simp [Known, Phase.pendingId] at hid
  pending_closed := fun _ h => by cases h

theorem eventsAlternate (h : Invariant s) : s.EventsAlternate :=
  fun id => (h.alternating id).left

theorem unopened (h : Invariant s)
    (hyielded : t.yielded = s.yielded ∨
      exists err, t.yielded = s.yielded ++ [.error err])
    (hopened : t.opened = s.opened) (hissued : t.issued = s.issued)
    (hreaders : forall reader, reader ∈ t.readers ++ t.disconnected ->
      reader ∈ s.readers ++ s.disconnected)
    (hpending : forall id, t.phase.pendingId = some id ->
      s.phase.pendingId = some id) : Invariant t := by
  constructor
  · rw [hopened]
    rcases hyielded with hyielded | ⟨err, hyielded⟩
    · rw [hyielded]
      exact h.alternating
    · rw [hyielded]
      exact h.alternating.unmarked rfl
  · intro id hid
    rw [hissued]
    apply h.known_issued
    rcases hid with hid | hid | ⟨reader, hreader, hid⟩
    · exact Or.inl (by rw [← hopened]; exact hid)
    · exact Or.inr (Or.inl (hpending id hid))
    · exact Or.inr (Or.inr ⟨reader, hreaders reader hreader, hid⟩)
  · intro id hid
    rw [hopened]
    exact h.pending_closed id (hpending id hid)

theorem arrive (h : Invariant s) {info : DeviceInfo} {id : UInt64}
    {map : UInt64 -> Option UInt64} (hfresh : id ∉ s.issued) :
    Invariant { s with
      phase := .opening info id
      devicesIdMap := map
      issued := id :: s.issued } := by
  constructor
  · exact h.alternating
  · intro other hother
    rcases hother with hother | hother | hother
    · exact List.mem_cons_of_mem _ (h.known_issued other (Or.inl hother))
    · cases hother
      exact List.mem_cons_self
    · exact List.mem_cons_of_mem _
        (h.known_issued other (Or.inr (Or.inr hother)))
  · intro other hother hopened
    cases hother
    exact hfresh (h.known_issued id (Or.inl hopened))

theorem connect (h : Invariant s) {device : UsbDevice} {id opaqueId : UInt64}
    (hpending : s.phase.pendingId = some id) :
    Invariant (s.connect device id opaqueId) := by
  have hissued : id ∈ s.issued := h.known_issued id (Or.inr (Or.inl hpending))
  constructor
  · exact h.alternating.opening rfl (h.pending_closed id hpending)
  · intro other hother
    rcases hother with hother | hother | ⟨reader, hreader, rfl⟩
    · rcases List.mem_cons.mp hother with rfl | hother
      · exact hissued
      · exact h.known_issued other (Or.inl hother)
    · cases hother
    · rcases List.mem_cons.mp hreader with rfl | hreader
      · exact hissued
      · exact h.known_issued reader.id (Or.inr (Or.inr ⟨reader, hreader, rfl⟩))
  · intro other hother
    cases hother

theorem lose (h : Invariant s) {id : UInt64} {opaqueId : Option UInt64}
    {ioDisconnect : Bool} (hopen : id ∈ s.opened)
    (hyielded : t.yielded =
      s.yielded ++ [.ok (.disconnected id opaqueId ioDisconnect)])
    (hopened : t.opened = s.opened.filter fun other => other ≠ id)
    (hissued : t.issued = s.issued)
    (hreaders : forall reader, reader ∈ t.readers ++ t.disconnected ->
      reader ∈ s.readers ++ s.disconnected)
    (hpending : forall other, t.phase.pendingId = some other -> other = id) :
    Invariant t := by
  constructor
  · rw [hyielded, hopened]
    exact h.alternating.closing rfl hopen
  · intro other hother
    rw [hissued]
    apply h.known_issued
    rcases hother with hother | hother | ⟨reader, hreader, hid⟩
    · rw [hopened] at hother
      exact Or.inl (List.mem_filter.mp hother).left
    · rw [hpending other hother]
      exact Or.inl hopen
    · exact Or.inr (Or.inr ⟨reader, hreaders reader hreader, hid⟩)
  · intro other hother
    rw [hopened, hpending other hother]
    simp

end Invariant

/-!
## Steps
-/

theorem hotplugConnected_eq_some {s t : UsbWatch} {info : DeviceInfo}
    {id : UInt64} (hstep : s.hotplugConnected info id = some t) :
    s.phase = .selecting ∧ id ∉ s.issued ∧
      t = { s with
        phase := .opening info id
        devicesIdMap := Function.update s.devicesIdMap info.opaqueId (some id)
        issued := id :: s.issued } := by
  unfold hotplugConnected at hstep
  cases hphase : s.phase with
  | selecting =>
      rw [hphase] at hstep
      rcases Machine.of_disabled_if hstep with ⟨hfresh, ht⟩
      exact ⟨rfl, hfresh, (Option.some.inj ht).symm⟩
  | opening _ _ | retrying _ _ _ | reopening _ _ =>
      rw [hphase] at hstep
      cases hstep

theorem hotplugDisconnected_eq_some {s t : UsbWatch} {opaqueId : UInt64}
    (hstep : s.hotplugDisconnected opaqueId = some t) :
    s.phase = .selecting ∧
      ((s.devicesIdMap opaqueId = none ∧ t = s) ∨
        exists id, s.devicesIdMap opaqueId = some id ∧
          t = disconnect
            { s with
              devicesIdMap := Function.update s.devicesIdMap opaqueId none }
            id none false) := by
  unfold hotplugDisconnected at hstep
  cases hphase : s.phase with
  | selecting =>
      rw [hphase] at hstep
      cases hid : s.devicesIdMap opaqueId with
      | none =>
          rw [hid] at hstep
          exact ⟨rfl, Or.inl ⟨rfl, (Option.some.inj hstep).symm⟩⟩
      | some id =>
          rw [hid] at hstep
          exact ⟨rfl, Or.inr ⟨id, rfl, (Option.some.inj hstep).symm⟩⟩
  | opening _ _ | retrying _ _ _ | reopening _ _ =>
      rw [hphase] at hstep
      cases hstep

theorem recvDisconnected_eq_some {s t : UsbWatch}
    (hstep : s.recvDisconnected = some t) :
    exists device rest, s.disconnected = device :: rest ∧
      t = disconnect
        { s with
          phase := .reopening device.opaqueId device.id
          disconnected := rest }
        device.id (some device.opaqueId) true := by
  unfold recvDisconnected at hstep
  cases hphase : s.phase with
  | selecting =>
      rw [hphase] at hstep
      cases hdisconnected : s.disconnected with
      | nil =>
          rw [hdisconnected] at hstep
          cases hstep
      | cons device rest =>
          rw [hdisconnected] at hstep
          exact ⟨device, rest, rfl, (Option.some.inj hstep).symm⟩
  | opening _ _ | retrying _ _ _ | reopening _ _ =>
      rw [hphase] at hstep
      cases hstep

namespace Invariant

variable {s t : UsbWatch}

theorem hotplugFailed (h : Invariant s) {err : RusbmuxError}
    (hstep : s.hotplugFailed err = some t) : Invariant t := by
  unfold UsbWatch.hotplugFailed at hstep
  split at hstep
  · cases hstep
    exact h.unopened (Or.inr ⟨err, rfl⟩) rfl rfl (fun _ hr => hr) fun _ hp => hp
  · cases hstep
  · cases hstep
  · cases hstep

theorem firstAttempt (h : Invariant s) {ready : Except RusbmuxError Unit}
    (hstep : s.firstAttempt ready = some t) : Invariant t := by
  unfold UsbWatch.firstAttempt at hstep
  cases hphase : s.phase with
  | opening info id =>
      rw [hphase] at hstep
      have hpending : s.phase.pendingId = some id := by
        rw [hphase]
        rfl
      cases hnew : newUsbWithDisconnectTx info id ready with
      | ok device =>
          simp only [hnew] at hstep
          cases hstep
          exact h.connect hpending
      | error err =>
          simp only [hnew] at hstep
          cases hstep
          refine h.unopened (Or.inl rfl) rfl rfl (fun _ hr => hr) ?_
          intro other hother
          rw [hpending]
          exact hother
  | selecting | retrying _ _ _ | reopening _ _ =>
      rw [hphase] at hstep
      cases hstep

theorem retry (h : Invariant s) {devices : List DeviceInfo}
    {ready : Except RusbmuxError Unit}
    (hstep : s.retry devices ready = some t) : Invariant t := by
  unfold UsbWatch.retry at hstep
  cases hphase : s.phase with
  | retrying firstError opaqueId id =>
      rw [hphase] at hstep
      have hpending : s.phase.pendingId = some id := by
        rw [hphase]
        rfl
      simp only at hstep
      split at hstep
      · cases hstep
        exact h
      · split at hstep
        · cases hstep
          exact h.connect hpending
        · cases hstep
          exact h
  | selecting | opening _ _ | reopening _ _ =>
      rw [hphase] at hstep
      cases hstep

theorem deadline (h : Invariant s) (hstep : s.deadline = some t) :
    Invariant t := by
  unfold UsbWatch.deadline at hstep
  split at hstep
  · cases hstep
    exact h.unopened (Or.inr ⟨_, rfl⟩) rfl rfl (fun _ hr => hr)
      fun _ hp => by cases hp
  · cases hstep
  · cases hstep
  · cases hstep

theorem reopen (h : Invariant s) {devices : List DeviceInfo}
    {ready : Except RusbmuxError Unit}
    (hstep : s.reopen devices ready = some t) : Invariant t := by
  unfold UsbWatch.reopen at hstep
  cases hphase : s.phase with
  | reopening opaqueId id =>
      rw [hphase] at hstep
      have hpending : s.phase.pendingId = some id := by
        rw [hphase]
        rfl
      simp only at hstep
      split at hstep
      · cases hstep
        exact h.unopened (Or.inl rfl) rfl rfl (fun _ hr => hr)
          fun _ hp => by cases hp
      · split at hstep
        · cases hstep
          exact h.connect hpending
        · cases hstep
          exact h.unopened (Or.inr ⟨_, rfl⟩) rfl rfl (fun _ hr => hr)
            fun _ hp => by cases hp
  | selecting | opening _ _ | retrying _ _ _ =>
      rw [hphase] at hstep
      cases hstep

theorem readerFails (h : Invariant s) {reader : IODisconnectedDevice}
    (hstep : s.readerFails reader = some t) : Invariant t := by
  rcases Machine.of_enabled_if hstep with ⟨hrunning, ht⟩
  cases ht
  refine h.unopened (Or.inl rfl) rfl rfl ?_ fun _ hp => hp
  intro other hother
  apply List.mem_append.mpr
  rcases List.mem_append.mp hother with hother | hother
  · exact Or.inl (List.mem_of_mem_erase hother)
  · rcases List.mem_append.mp hother with hother | hother
    · exact Or.inr hother
    · rw [List.mem_singleton.mp hother]
      exact Or.inl hrunning.left

theorem readerCancelled (h : Invariant s) {reader : IODisconnectedDevice}
    (hstep : s.readerCancelled reader = some t) : Invariant t := by
  rcases Machine.of_enabled_if hstep with ⟨_, ht⟩
  cases ht
  refine h.unopened (Or.inl rfl) rfl rfl ?_ fun _ hp => hp
  intro other hother
  apply List.mem_append.mpr
  rcases List.mem_append.mp hother with hother | hother
  · exact Or.inl (List.mem_of_mem_erase hother)
  · exact Or.inr hother

theorem hotplugDisconnected (h : Invariant s) {opaqueId : UInt64}
    (hstep : s.hotplugDisconnected opaqueId = some t)
    (hopen : forall id, s.devicesIdMap opaqueId = some id -> id ∈ s.opened) :
    Invariant t := by
  rcases hotplugDisconnected_eq_some hstep with
    ⟨hphase, ⟨_, rfl⟩ | ⟨id, hid, rfl⟩⟩
  · exact h
  · refine h.lose (hopen id hid) rfl rfl rfl (fun _ hr => hr) ?_
    intro other hother
    have hnone : s.phase.pendingId = some other := hother
    rw [hphase] at hnone
    cases hnone

theorem recvDisconnected (h : Invariant s)
    (hstep : s.recvDisconnected = some t)
    (hopen : forall device, s.disconnected.head? = some device ->
      device.id ∈ s.opened) : Invariant t := by
  rcases recvDisconnected_eq_some hstep with ⟨device, rest, hqueue, rfl⟩
  have hdevice : device.id ∈ s.opened := by
    apply hopen device
    rw [hqueue]
    rfl
  refine h.lose hdevice rfl rfl rfl ?_ ?_
  · intro reader hreader
    rw [hqueue]
    apply List.mem_append.mpr
    rcases List.mem_append.mp hreader with hreader | hreader
    · exact Or.inl hreader
    · exact Or.inr (List.mem_cons_of_mem _ hreader)
  · intro other hother
    exact (Option.some.inj hother).symm

end Invariant

theorem invariant_step {s t : UsbWatch} {a : Action} (h : Invariant s)
    (hstep : step s a = some t) (hguard : s.LosesOpened a) : Invariant t := by
  cases a with
  | hotplugConnected info id =>
      rcases hotplugConnected_eq_some hstep with ⟨_, hfresh, rfl⟩
      exact h.arrive hfresh
  | hotplugDisconnected opaqueId => exact h.hotplugDisconnected hstep hguard
  | hotplugFailed err => exact h.hotplugFailed hstep
  | firstAttempt ready => exact h.firstAttempt hstep
  | retry devices ready => exact h.retry hstep
  | deadline => exact h.deadline hstep
  | recvDisconnected => exact h.recvDisconnected hstep hguard
  | reopen devices ready => exact h.reopen hstep
  | readerFails reader => exact h.readerFails hstep
  | readerCancelled reader => exact h.readerCancelled hstep

theorem not_eventsAlternate_of_lost {s t : UsbWatch} {a : Action}
    (h : Invariant s) (hstep : step s a = some t)
    (hguard : ¬ s.LosesOpened a) : ¬ t.EventsAlternate := by
  intro halternate
  apply hguard
  cases a with
  | hotplugDisconnected opaqueId =>
      intro id hid
      rcases hotplugDisconnected_eq_some hstep with
        ⟨_, ⟨hnone, _⟩ | ⟨other, hother, rfl⟩⟩
      · rw [hnone] at hid
        cases hid
      · rw [hid] at hother
        cases hother
        by_contra hclosed
        exact h.alternating.not_alternates_of_closing rfl hclosed
          (halternate id)
  | recvDisconnected =>
      intro device hdevice
      rcases recvDisconnected_eq_some hstep with ⟨_, rest, hqueue, rfl⟩
      rw [hqueue] at hdevice
      cases hdevice
      by_contra hclosed
      exact h.alternating.not_alternates_of_closing rfl hclosed
        (halternate device.id)
  | hotplugConnected _ _ | hotplugFailed _ | firstAttempt _ | retry _ _
  | deadline | reopen _ _ | readerFails _ | readerCancelled _ => trivial

/--
The events yielded for every id alternate, a connection first, exactly when
every loss that is taken up is of a device that is open.
-/
theorem eventsAlternate_throughout (acts : List Action) :
    Machine.Throughout step EventsAlternate {} acts <->
      Machine.Guarded step LosesOpened {} acts :=
  Machine.throughout_iff_guarded (fun _ h => h.eventsAlternate)
    (fun _ _ _ h hstep hguard => invariant_step h hstep hguard)
    (fun _ _ _ h hstep hguard => not_eventsAlternate_of_lost h hstep hguard)
    Invariant.init acts

def phone : DeviceInfo where
  opaqueId := 7
  udid := some "00008110-000A"

/-- A device that never opened is disconnected when it is unplugged. -/
theorem not_eventsAlternate_unopened :
    ¬ forall acts, Machine.Throughout step EventsAlternate {} acts := by
  intro h
  have hlast := h
    [.hotplugConnected phone 1,
      .firstAttempt (.error (.usb "device is busy")),
      .retry [phone] (.error (.usb "device is busy")),
      .deadline,
      .hotplugDisconnected 7]
  have hrun := hlast.last rfl 1
  exact absurd hrun.left (by decide)

end UsbWatch

end Watcher
end Rusbmux
