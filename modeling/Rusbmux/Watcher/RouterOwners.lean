import Mathlib.Logic.Function.Basic
import Rusbmux.Device.Device
import Rusbmux.Foundation.Machine
import Rusbmux.Watcher.Preflight

/-!
# Who owns the packet router of a device

The packet router of a USB device is shared by the device, its reader task, and
everything that holds a clone of the shared part: the preflight task and the
streams that its provider opens.  Here is the life of every device that the USB
watcher is given, from its opening to its drop, next to its two tasks and to the
cleanup of the daemon, which take their steps at any time.  The network devices
of the registry and the events play no part.
-/

namespace Rusbmux
namespace Watcher

open Foundation

inductive ReaderTask where
  | running
  | reporting
  | ended
deriving DecidableEq, Repr

structure OpenDevice where
  device : UsbDevice
  /-- The `UsbDevice` is there; its drop has not begun. -/
  held : Bool := true
  cancelled : Bool := false
  dropped : Bool := false
  aborted : Bool := false
  reader : ReaderTask := .running
  preflight : PreflightTask := .notSpawned

namespace OpenDevice

/--
The owners of the router: the device, its reader task while it has not ended,
the preflight task and the streams that hold a clone of the shared part.
-/
def owners (d : OpenDevice) : Nat :=
  d.held.toNat + (decide (d.reader ≠ .ended)).toNat +
    d.preflight.holdsDevice.toNat + d.preflight.streams

/-- `Arc::strong_count`, which also counts the clone of a stream to come. -/
def routerOwners (d : OpenDevice) : Nat :=
  d.owners + d.preflight.connects

def cancel (d : OpenDevice) : OpenDevice :=
  { d with cancelled := true }

def dropLoops (d : OpenDevice) : OpenDevice :=
  { d with dropped := true, aborted := true }

/-- An error of `close_all_blocking` ends the call before the loops. -/
def shutdownBlocking (d : OpenDevice) (closed : Bool) : OpenDevice :=
  if closed then d.cancel.dropLoops else d.cancel

def drop (d : OpenDevice) (closed : Bool) : OpenDevice :=
  { if d.dropped then d else d.shutdownBlocking closed with held := false }

/-!
### The tasks
-/

def readerFails (d : OpenDevice) : Option OpenDevice :=
  if d.reader = .running then some { d with reader := .reporting } else none

/-- The message is sent, or its channel is closed, and the loop breaks. -/
def readerReported (d : OpenDevice) : Option OpenDevice :=
  if d.reader = .reporting then some { d with reader := .ended } else none

def readerPanics (d : OpenDevice) : Option OpenDevice :=
  if d.reader = .running then some { d with reader := .ended } else none

def readerEnds (d : OpenDevice) : Option OpenDevice :=
  if d.cancelled || d.aborted then some { d with reader := .ended } else none

def preflightStep (d : OpenDevice) (answer : PreflightAnswer) :
    Option OpenDevice :=
  (d.preflight.next answer).map fun p => { d with preflight := p }

def preflightEnds (d : OpenDevice) : Option OpenDevice :=
  if d.cancelled && d.preflight ≠ .notSpawned then
    some { d with preflight := .ended }
  else
    none

end OpenDevice

inductive UsbDaemon where
  | waiting
  | retaining (key : Nat)
  | spawning (key : Nat)
  | inserting (key : Nat)
  /-- In `remove_device`, at the shutdown of the device. -/
  | cancelling (key : Nat)
  | closing (key : Nat)
  | dropping (key : Nat)
  | panicked
deriving DecidableEq, Repr

def UsbDaemon.inHand : UsbDaemon -> Option Nat
  | waiting | panicked => none
  | retaining key | spawning key | inserting key | cancelling key
  | closing key | dropping key => some key

structure Ownership where
  devices : Nat -> Option OpenDevice := fun _ => none
  opened : Nat := 0
  /-- The USB devices of the registry by their ids. -/
  connectedDevices : UInt64 -> Option Nat := fun _ => none
  daemon : UsbDaemon := .waiting

namespace Ownership

inductive TaskAction where
  | readerFails
  | readerReported
  | readerPanics
  | readerEnds
  | preflightStep (answer : PreflightAnswer)
  | preflightEnds
  | cleanupCancels
  | cleanupDropsLoops

inductive Action where
  | connected (device : UsbDevice)
  /-- `retain` drops a device; an error of `close_all_blocking` is possible. -/
  | retain (key : Nat) (closed : Bool)
  | retained
  | spawn
  | insert
  | disconnected (id : UInt64)
  | cancel
  | closeAll (closed : Bool)
  | drop (closed : Bool)
  | task (key : Nat) (a : TaskAction)

def setDevice (s : Ownership) (key : Nat) (d : OpenDevice) : Ownership :=
  { s with devices := Function.update s.devices key (some d) }

def unregister (s : Ownership) (id : UInt64) : Ownership :=
  { s with connectedDevices := Function.update s.connectedDevices id none }

def hasUdid (s : Ownership) (udid : String) (key : Nat) : Bool :=
  (s.devices key).any fun d =>
    s.connectedDevices d.device.id = some key && d.device.udid = udid

def stale (s : Ownership) (udid : String) : List Nat :=
  (List.range s.opened).filter (s.hasUdid udid)

/--
The drop of a device.  With debug assertions, a third owner of the router makes
it panic, which ends the task of the daemon.
-/
def dropDevice (debug : Bool) (s : Ownership) (key : Nat) (closed : Bool)
    (next : UsbDaemon) : Option Ownership :=
  (s.devices key).map fun d =>
    if debug && 2 < d.routerOwners then
      { s.setDevice key { d with held := false } with daemon := .panicked }
    else
      { s.setDevice key (d.drop closed) with daemon := next }

def connected (s : Ownership) (device : UsbDevice) : Option Ownership :=
  match s.daemon with
  | .waiting =>
      some { s.setDevice s.opened { device := device } with
        opened := s.opened + 1
        daemon := .retaining s.opened }
  | _ => none

def retain (debug : Bool) (s : Ownership) (key : Nat) (closed : Bool) :
    Option Ownership :=
  match s.daemon with
  | .retaining new => do
      let device <- s.devices new
      let old <- s.devices key
      if key ∈ s.stale device.device.udid then
        dropDevice debug (s.unregister old.device.id) key closed
          (.retaining new)
      else
        none
  | _ => none

def retained (s : Ownership) : Option Ownership :=
  match s.daemon with
  | .retaining new => do
      let device <- s.devices new
      if s.stale device.device.udid = [] then
        some { s with daemon := .spawning new }
      else
        none
  | _ => none

def spawn (s : Ownership) : Option Ownership :=
  match s.daemon with
  | .spawning key =>
      (s.devices key).map fun d =>
        { s.setDevice key { d with preflight := .readingFile } with
          daemon := .inserting key }
  | _ => none

def insert (s : Ownership) : Option Ownership :=
  match s.daemon with
  | .inserting key =>
      (s.devices key).map fun d =>
        { s with
          connectedDevices :=
            Function.update s.connectedDevices d.device.id (some key)
          daemon :=
            match s.connectedDevices d.device.id with
            | some old => .dropping old
            | none => .waiting }
  | _ => none

def disconnected (s : Ownership) (id : UInt64) : Option Ownership :=
  match s.daemon, s.connectedDevices id with
  | .waiting, none => some s
  | .waiting, some key => some { s.unregister id with daemon := .cancelling key }
  | _, _ => none

def cancel (s : Ownership) : Option Ownership :=
  match s.daemon with
  | .cancelling key =>
      (s.devices key).map fun d =>
        { s.setDevice key d.cancel with daemon := .closing key }
  | _ => none

/-- `close_all` returns; its error ends the shutdown before the loops. -/
def closeAll (s : Ownership) (closed : Bool) : Option Ownership :=
  match s.daemon with
  | .closing key =>
      (s.devices key).map fun d =>
        { s.setDevice key (if closed then d.dropLoops else d) with
          daemon := .dropping key }
  | _ => none

def drop (debug : Bool) (s : Ownership) (closed : Bool) : Option Ownership :=
  match s.daemon with
  | .dropping key => dropDevice debug s key closed .waiting
  | _ => none

def taskStep (registered : Bool) (d : OpenDevice) :
    TaskAction -> Option OpenDevice
  | .readerFails => d.readerFails
  | .readerReported => d.readerReported
  | .readerPanics => d.readerPanics
  | .readerEnds => d.readerEnds
  | .preflightStep answer => d.preflightStep answer
  | .preflightEnds => d.preflightEnds
  | .cleanupCancels => if registered then some d.cancel else none
  | .cleanupDropsLoops =>
      if registered && d.cancelled then some d.dropLoops else none

def task (s : Ownership) (key : Nat) (a : TaskAction) : Option Ownership := do
  let d <- s.devices key
  let d <- taskStep (s.connectedDevices d.device.id = some key) d a
  some (s.setDevice key d)

def step (debug : Bool) : Machine Ownership Action := fun s a =>
  match a with
  | .connected device => s.connected device
  | .retain key closed => s.retain debug key closed
  | .retained => s.retained
  | .spawn => s.spawn
  | .insert => s.insert
  | .disconnected id => s.disconnected id
  | .cancel => s.cancel
  | .closeAll closed => s.closeAll closed
  | .drop closed => s.drop debug closed
  | .task key a => s.task key a

def drops (s : Ownership) : Action -> Option OpenDevice
  | .retain key _ => s.devices key
  | .drop _ =>
      match s.daemon with
      | .dropping key => s.devices key
      | _ => none
  | _ => none

/-!
## What the operations can do
-/

variable {debug : Bool} {s t : Ownership}

theorem dropDevice_cases {key : Nat} {closed : Bool} {next : UsbDaemon}
    (hstep : dropDevice debug s key closed next = some t) :
    exists d, s.devices key = some d ∧
      (((debug = true ∧ 2 < d.routerOwners) ∧
          t = { s.setDevice key { d with held := false } with
            daemon := .panicked }) ∨
        (¬ (debug = true ∧ 2 < d.routerOwners) ∧
          t = { s.setDevice key (d.drop closed) with daemon := next })) := by
  rcases Option.map_eq_some_iff.mp hstep with ⟨d, hd, rfl⟩
  refine ⟨d, hd, ?_⟩
  by_cases hfails : debug = true ∧ 2 < d.routerOwners
  · refine Or.inl ⟨hfails, ?_⟩
    rw [if_pos (by simpa using hfails)]
  · refine Or.inr ⟨hfails, ?_⟩
    rw [if_neg (by simpa using hfails)]

theorem mem_stale_iff {udid : String} {key : Nat} :
    key ∈ s.stale udid <-> key < s.opened ∧
      exists d, s.devices key = some d ∧
        s.connectedDevices d.device.id = some key ∧ d.device.udid = udid := by
  simp [stale, hasUdid, Option.any_eq_true]

theorem retain_eq_some {key : Nat} {closed : Bool}
    (hstep : s.retain debug key closed = some t) :
    exists new d, s.daemon = .retaining new ∧ s.devices key = some d ∧
      s.connectedDevices d.device.id = some key ∧
        dropDevice debug (s.unregister d.device.id) key closed
          (.retaining new) = some t := by
  unfold retain at hstep
  split at hstep
  · rename_i new hdaemon
    rcases Option.bind_eq_some_iff.mp hstep with ⟨device, _, hnext⟩
    rcases Option.bind_eq_some_iff.mp hnext with ⟨d, hd, hdrop⟩
    rcases Machine.of_enabled_if hdrop with ⟨hstale, hdropped⟩
    rcases (mem_stale_iff.mp hstale).right with ⟨old, hold, hregistered, _⟩
    cases hd.symm.trans hold
    exact ⟨new, d, hdaemon, hd, hregistered, hdropped⟩
  · cases hstep

theorem drop_eq_some {closed : Bool} (hstep : s.drop debug closed = some t) :
    exists key, s.daemon = .dropping key ∧
      dropDevice debug s key closed .waiting = some t := by
  unfold drop at hstep
  split at hstep
  · rename_i key hdaemon
    exact ⟨key, hdaemon, hstep⟩
  · cases hstep

def SameDevice (d e : OpenDevice) : Prop :=
  e.held = d.held ∧ e.device = d.device

theorem taskStep_same {registered : Bool} {d e : OpenDevice} {a : TaskAction}
    (hstep : taskStep registered d a = some e) : SameDevice d e := by
  cases a with
  | readerFails =>
      cases (Machine.of_enabled_if hstep).right
      exact ⟨rfl, rfl⟩
  | readerReported =>
      cases (Machine.of_enabled_if hstep).right
      exact ⟨rfl, rfl⟩
  | readerPanics =>
      cases (Machine.of_enabled_if hstep).right
      exact ⟨rfl, rfl⟩
  | readerEnds =>
      cases (Machine.of_enabled_if hstep).right
      exact ⟨rfl, rfl⟩
  | preflightStep answer =>
      rcases Option.map_eq_some_iff.mp hstep with ⟨p, _, rfl⟩
      exact ⟨rfl, rfl⟩
  | preflightEnds =>
      cases (Machine.of_enabled_if hstep).right
      exact ⟨rfl, rfl⟩
  | cleanupCancels =>
      cases (Machine.of_enabled_if hstep).right
      exact ⟨rfl, rfl⟩
  | cleanupDropsLoops =>
      cases (Machine.of_enabled_if hstep).right
      exact ⟨rfl, rfl⟩

def HandStep (s t : Ownership) : Prop :=
  exists key d e daemon, s.daemon.inHand = some key ∧
    s.devices key = some d ∧ SameDevice d e ∧ daemon.inHand = some key ∧
      t = { s.setDevice key e with daemon := daemon }

theorem connected_eq_some {device : UsbDevice}
    (hstep : s.connected device = some t) :
    t = { s.setDevice s.opened { device := device } with
      opened := s.opened + 1
      daemon := .retaining s.opened } := by
  unfold connected at hstep
  split at hstep
  · cases hstep
    rfl
  · cases hstep

theorem retained_eq_some (hstep : s.retained = some t) :
    exists new, s.daemon = .retaining new ∧
      t = { s with daemon := .spawning new } := by
  unfold retained at hstep
  split at hstep
  · rename_i new hdaemon
    rcases Option.bind_eq_some_iff.mp hstep with ⟨_, _, hnext⟩
    cases (Machine.of_enabled_if hnext).right
    exact ⟨new, hdaemon, rfl⟩
  · cases hstep

theorem handStep_spawn (hstep : s.spawn = some t) : HandStep s t := by
  unfold spawn at hstep
  split at hstep
  · rename_i key hdaemon
    rcases Option.map_eq_some_iff.mp hstep with ⟨d, hd, rfl⟩
    have hsame : SameDevice d { d with preflight := .readingFile } :=
      ⟨rfl, rfl⟩
    exact ⟨key, d, _, _, by rw [hdaemon]; rfl, hd, hsame, rfl, rfl⟩
  · cases hstep

theorem insert_eq_some (hstep : s.insert = some t) :
    exists key d, s.daemon = .inserting key ∧ s.devices key = some d ∧
      t = { s with
        connectedDevices :=
          Function.update s.connectedDevices d.device.id (some key)
        daemon :=
          match s.connectedDevices d.device.id with
          | some old => .dropping old
          | none => .waiting } := by
  unfold insert at hstep
  split at hstep
  · rename_i key hdaemon
    rcases Option.map_eq_some_iff.mp hstep with ⟨d, hd, rfl⟩
    exact ⟨key, d, hdaemon, hd, rfl⟩
  · cases hstep

theorem disconnected_eq_some {id : UInt64}
    (hstep : s.disconnected id = some t) :
    t = s ∨ exists key, s.connectedDevices id = some key ∧
      t = { s.unregister id with daemon := .cancelling key } := by
  unfold disconnected at hstep
  split at hstep
  · cases hstep
    exact Or.inl rfl
  · rename_i key _ hregistered
    cases hstep
    exact Or.inr ⟨key, hregistered, rfl⟩
  · cases hstep

theorem handStep_cancel (hstep : s.cancel = some t) : HandStep s t := by
  unfold cancel at hstep
  split at hstep
  · rename_i key hdaemon
    rcases Option.map_eq_some_iff.mp hstep with ⟨d, hd, rfl⟩
    have hsame : SameDevice d d.cancel := ⟨rfl, rfl⟩
    exact ⟨key, d, _, _, by rw [hdaemon]; rfl, hd, hsame, rfl, rfl⟩
  · cases hstep

theorem handStep_closeAll {closed : Bool}
    (hstep : s.closeAll closed = some t) : HandStep s t := by
  unfold closeAll at hstep
  split at hstep
  · rename_i key hdaemon
    rcases Option.map_eq_some_iff.mp hstep with ⟨d, hd, rfl⟩
    have hsame : SameDevice d (if closed then d.dropLoops else d) := by
      cases closed with
      | true => exact ⟨rfl, rfl⟩
      | false => exact ⟨rfl, rfl⟩
    exact ⟨key, d, _, _, by rw [hdaemon]; rfl, hd, hsame, rfl, rfl⟩
  · cases hstep

theorem task_eq_some {key : Nat} {a : TaskAction}
    (hstep : s.task key a = some t) :
    exists d e, s.devices key = some d ∧ SameDevice d e ∧
      t = s.setDevice key e := by
  rcases Option.bind_eq_some_iff.mp hstep with ⟨d, hd, hnext⟩
  rcases Option.bind_eq_some_iff.mp hnext with ⟨e, he, hset⟩
  cases hset
  exact ⟨d, e, hd, taskStep_same he, rfl⟩

theorem drops_eq_some {a : Action} {d : OpenDevice}
    (hdrops : s.drops a = some d) (hstep : step debug s a = some t) :
    exists key, s.devices key = some d ∧
      ((exists id, s.connectedDevices id = some key) ∨
        s.daemon.inHand = some key) ∧
      exists u closed next, u.devices = s.devices ∧ next ≠ .panicked ∧
        dropDevice debug u key closed next = some t := by
  cases a with
  | retain key closed =>
      rcases retain_eq_some hstep with ⟨new, e, _, he, hregistered, hdrop⟩
      have hnext : UsbDaemon.retaining new ≠ .panicked :=
        fun hp => nomatch hp
      exact ⟨key, hdrops, Or.inl ⟨_, hregistered⟩, s.unregister e.device.id,
        closed, _, rfl, hnext, hdrop⟩
  | drop closed =>
      rcases drop_eq_some hstep with ⟨key, hdaemon, hdrop⟩
      unfold drops at hdrops
      rw [hdaemon] at hdrops
      have hin : s.daemon.inHand = some key := by rw [hdaemon]; rfl
      have hnext : UsbDaemon.waiting ≠ .panicked := fun hp => nomatch hp
      exact ⟨key, hdrops, Or.inr hin, s, closed, _, rfl, hnext, hdrop⟩
  | connected device => cases hdrops
  | retained => cases hdrops
  | spawn => cases hdrops
  | insert => cases hdrops
  | disconnected id => cases hdrops
  | cancel => cases hdrops
  | closeAll closed => cases hdrops
  | task key a => cases hdrops

/-!
## Every device is in one place
-/

/--
A registered device is held, under its own id, and so is the device that the
daemon has in hand, which is not registered.
-/
structure Owned (s : Ownership) : Prop where
  fresh : forall key, s.opened <= key -> s.devices key = none
  registered : forall id key, s.connectedDevices id = some key ->
    exists d, s.devices key = some d ∧ d.held = true ∧ d.device.id = id
  inHand : forall key, s.daemon.inHand = some key ->
    exists d, s.devices key = some d ∧ d.held = true
  apart : forall key, s.daemon.inHand = some key ->
    forall id, s.connectedDevices id ≠ some key

namespace Owned

theorem init : Owned {} where
  fresh := fun _ _ => rfl
  registered := fun _ _ h => nomatch h
  inHand := fun _ h => nomatch h
  apart := fun _ h => nomatch h

theorem ne_opened (h : Owned s) {key : Nat} {d : OpenDevice}
    (hd : s.devices key = some d) : key ≠ s.opened := by
  intro hsame
  rw [h.fresh key (Nat.le_of_eq hsame.symm)] at hd
  cases hd

theorem withDaemon (h : Owned s) {daemon : UsbDaemon}
    (hhand : forall key, daemon.inHand = some key ->
      s.daemon.inHand = some key) : Owned { s with daemon := daemon } where
  fresh := h.fresh
  registered := h.registered
  inHand := fun key hkey => h.inHand key (hhand key hkey)
  apart := fun key hkey => h.apart key (hhand key hkey)

theorem fresh_setDevice (h : Owned s) {key : Nat} {d : OpenDevice}
    (hd : s.devices key = some d) (e : OpenDevice) :
    forall other, s.opened <= other ->
      (s.setDevice key e).devices other = none := by
  intro other hother
  have hne : other ≠ key := by
    intro hsame
    rw [← hsame, h.fresh other hother] at hd
    cases hd
  show Function.update s.devices key (some e) other = none
  rw [Function.update_of_ne hne]
  exact h.fresh other hother

theorem setDevice (h : Owned s) {key : Nat} {d e : OpenDevice}
    (hd : s.devices key = some d) (hsame : SameDevice d e) :
    Owned (s.setDevice key e) := by
  have hlook : forall other o, s.devices other = some o ->
      exists o', (s.setDevice key e).devices other = some o' ∧
        SameDevice o o' := by
    intro other o ho
    by_cases hother : other = key
    · subst other
      cases hd.symm.trans ho
      exact ⟨e, Function.update_self _ _ _, hsame⟩
    · exact ⟨o, (Function.update_of_ne hother _ _).trans ho, rfl, rfl⟩
  refine ⟨h.fresh_setDevice hd e, ?_, ?_, h.apart⟩
  · intro id other hid
    rcases h.registered id other hid with ⟨o, ho, hheld, hoid⟩
    rcases hlook other o ho with ⟨o', ho', hh, hdev⟩
    exact ⟨o', ho', hh.trans hheld, by rw [hdev]; exact hoid⟩
  · intro other hother
    rcases h.inHand other hother with ⟨o, ho, hheld⟩
    rcases hlook other o ho with ⟨o', ho', hh, _⟩
    exact ⟨o', ho', hh.trans hheld⟩

theorem unregister (h : Owned s) {id : UInt64} {key : Nat}
    (hkey : s.connectedDevices id = some key) {daemon : UsbDaemon}
    (hhand : forall other, daemon.inHand = some other ->
      s.daemon.inHand = some other ∨ other = key) :
    Owned { s.unregister id with daemon := daemon } := by
  have hwas : forall other k,
      (s.unregister id).connectedDevices other = some k ->
        other ≠ id ∧ s.connectedDevices other = some k :=
    fun _ _ hk => of_update_none_eq_some hk
  refine ⟨h.fresh, ?_, ?_, ?_⟩
  · exact fun other k hk => h.registered other k (hwas other k hk).right
  · intro other hother
    rcases hhand other hother with hin | rfl
    · exact h.inHand other hin
    · rcases h.registered id other hkey with ⟨d, hd, hheld, _⟩
      exact ⟨d, hd, hheld⟩
  · intro other hother oid hoid
    rcases hwas oid other hoid with ⟨hne, hreg⟩
    rcases hhand other hother with hin | rfl
    · exact h.apart other hin oid hreg
    · -- a device is registered under its own id only
      rcases h.registered id other hkey with ⟨d, hd, _, hid⟩
      rcases h.registered oid other hreg with ⟨e, he, _, hoid'⟩
      cases hd.symm.trans he
      exact hne (hoid'.symm.trans hid)

theorem dropDevice (h : Owned s) {key : Nat} {closed : Bool}
    {next : UsbDaemon}
    (hkey : forall id, s.connectedDevices id ≠ some key)
    (hnext : forall other, next.inHand = some other ->
      other ≠ key ∧ s.daemon.inHand = some other)
    (hstep : dropDevice debug s key closed next = some t) : Owned t := by
  have hdropped : forall e daemon, (forall other,
      UsbDaemon.inHand daemon = some other ->
        other ≠ key ∧ s.daemon.inHand = some other) ->
      forall d, s.devices key = some d ->
        Owned { s.setDevice key e with daemon := daemon } := by
    intro e daemon hhand d hd
    have hlook : forall other, other ≠ key ->
        (s.setDevice key e).devices other = s.devices other :=
      fun _ hother => Function.update_of_ne hother _ _
    refine ⟨h.fresh_setDevice hd e, ?_, ?_, ?_⟩
    · intro id other hid
      rcases h.registered id other hid with ⟨o, ho, hfacts⟩
      have hother : other ≠ key := fun hsame => hkey id (hsame ▸ hid)
      exact ⟨o, (hlook other hother).trans ho, hfacts⟩
    · intro other hother
      rcases hhand other hother with ⟨hne, hin⟩
      rcases h.inHand other hin with ⟨o, ho, hheld⟩
      exact ⟨o, (hlook other hne).trans ho, hheld⟩
    · intro other hother
      exact h.apart other (hhand other hother).right
  rcases dropDevice_cases hstep with ⟨d, hd, ⟨_, rfl⟩ | ⟨_, rfl⟩⟩
  · exact hdropped _ .panicked (fun _ hin => nomatch hin) d hd
  · exact hdropped _ next hnext d hd

/-!
### Steps
-/

theorem connected (h : Owned s) {device : UsbDevice}
    (hstep : s.connected device = some t) : Owned t := by
  rcases connected_eq_some hstep with rfl
  have hlook : forall other o, s.devices other = some o ->
      Function.update s.devices s.opened
        (some ({ device := device } : OpenDevice)) other = some o :=
    fun other o ho => (Function.update_of_ne (h.ne_opened ho) _ _).trans ho
  refine ⟨?_, ?_, ?_, ?_⟩
  · intro key hkey
    show Function.update s.devices s.opened _ key = none
    rw [Function.update_of_ne (Nat.ne_of_gt hkey)]
    exact h.fresh key (Nat.le_of_succ_le hkey)
  · intro id key hid
    rcases h.registered id key hid with ⟨o, ho, hfacts⟩
    exact ⟨o, hlook key o ho, hfacts⟩
  · intro key hkey
    cases hkey
    exact ⟨_, Function.update_self _ _ _, rfl⟩
  · intro key hkey id hid
    cases hkey
    rcases h.registered id _ hid with ⟨o, ho, _⟩
    exact h.ne_opened ho rfl

theorem retain (h : Owned s) {key : Nat} {closed : Bool}
    (hstep : s.retain debug key closed = some t) : Owned t := by
  rcases retain_eq_some hstep with ⟨new, d, hdaemon, hd, hreg, hdrop⟩
  have hleft : Owned (s.unregister d.device.id) :=
    h.unregister hreg (fun _ hin => Or.inl hin)
  refine hleft.dropDevice ?_ ?_ hdrop
  · intro id hid
    rcases of_update_none_eq_some hid with ⟨hne, hregistered⟩
    rcases h.registered id key hregistered with ⟨e, he, _, heid⟩
    cases hd.symm.trans he
    exact hne heid.symm
  · intro other hother
    have hin : s.daemon.inHand = some other := by
      rw [hdaemon]
      exact hother
    exact ⟨fun hsame => h.apart other hin d.device.id (hsame ▸ hreg), hin⟩

theorem retained (h : Owned s) (hstep : s.retained = some t) : Owned t := by
  rcases retained_eq_some hstep with ⟨new, hdaemon, rfl⟩
  apply h.withDaemon
  rw [hdaemon]
  exact fun _ hin => hin

theorem handStep (h : Owned s) (hstep : HandStep s t) : Owned t := by
  rcases hstep with ⟨key, d, e, daemon, hin, hd, hsame, hnext, rfl⟩
  apply (h.setDevice hd hsame).withDaemon
  intro other hother
  rw [← hother, hnext]
  exact hin

theorem insert (h : Owned s) (hstep : s.insert = some t) : Owned t := by
  rcases insert_eq_some hstep with ⟨key, d, hdaemon, hd, rfl⟩
  have hkey : s.daemon.inHand = some key := by rw [hdaemon]; rfl
  have hheld : d.held = true := by
    rcases h.inHand key hkey with ⟨e, he, hheld⟩
    cases hd.symm.trans he
    exact hheld
  -- the device that was registered under the id is taken in hand
  have hold : forall old, (match s.connectedDevices d.device.id with
      | some old => UsbDaemon.dropping old
      | none => .waiting).inHand = some old ->
        s.connectedDevices d.device.id = some old := by
    intro old hin
    split at hin
    · rename_i other hother
      cases hin
      exact hother
    · cases hin
  refine ⟨h.fresh, ?_, ?_, ?_⟩
  · intro id other hid
    rcases of_update_eq_some hid with ⟨rfl, rfl⟩ | ⟨_, hreg⟩
    · exact ⟨d, hd, hheld, rfl⟩
    · exact h.registered id other hreg
  · intro old hin
    rcases h.registered _ old (hold old hin) with ⟨e, he, heheld, _⟩
    exact ⟨e, he, heheld⟩
  · intro old hin id hid
    rcases h.registered _ old (hold old hin) with ⟨e, he, _, heid⟩
    rcases of_update_eq_some hid with ⟨_, rfl⟩ | ⟨hne, hreg⟩
    · exact h.apart old hkey _ (hold old hin)
    · rcases h.registered id old hreg with ⟨o, ho, _, hoid⟩
      cases he.symm.trans ho
      exact hne (hoid.symm.trans heid)

theorem disconnected (h : Owned s) {id : UInt64}
    (hstep : s.disconnected id = some t) : Owned t := by
  rcases disconnected_eq_some hstep with rfl | ⟨key, hregistered, rfl⟩
  · exact h
  · apply h.unregister hregistered
    intro other hin
    exact Or.inr (Option.some.inj hin).symm

theorem drop (h : Owned s) {closed : Bool}
    (hstep : s.drop debug closed = some t) : Owned t := by
  rcases drop_eq_some hstep with ⟨key, hdaemon, hdrop⟩
  have hkey : s.daemon.inHand = some key := by rw [hdaemon]; rfl
  refine h.dropDevice (h.apart key hkey) ?_ hdrop
  intro other hin
  cases hin

theorem task (h : Owned s) {key : Nat} {a : TaskAction}
    (hstep : s.task key a = some t) : Owned t := by
  rcases task_eq_some hstep with ⟨d, e, hd, hsame, rfl⟩
  exact h.setDevice hd hsame

theorem step {a : Action} (h : Owned s) (hstep : step debug s a = some t) :
    Owned t := by
  cases a with
  | connected device => exact h.connected hstep
  | retain key closed => exact h.retain hstep
  | retained => exact h.retained hstep
  | spawn => exact h.handStep (handStep_spawn hstep)
  | insert => exact h.insert hstep
  | disconnected id => exact h.disconnected hstep
  | cancel => exact h.handStep (handStep_cancel hstep)
  | closeAll closed => exact h.handStep (handStep_closeAll hstep)
  | drop closed => exact h.drop hstep
  | task key a => exact h.task hstep

theorem held_of_drops (h : Owned s) {a : Action} {d : OpenDevice}
    (hstep : Ownership.step debug s a = some t) (hdrops : s.drops a = some d) :
    d.held = true := by
  rcases drops_eq_some hdrops hstep with
    ⟨key, hd, ⟨id, hregistered⟩ | hin, _⟩
  · rcases h.registered id key hregistered with ⟨e, he, hheld, _⟩
    cases hd.symm.trans he
    exact hheld
  · rcases h.inHand key hin with ⟨e, he, hheld⟩
    cases hd.symm.trans he
    exact hheld

end Owned

/-!
## Owners at a drop
-/

end Ownership

namespace OpenDevice

variable {d : OpenDevice}

/--
The preflight task holds nothing of the device, or the reader task has ended and
the preflight has not opened its first stream.
-/
def Released (d : OpenDevice) : Prop :=
  d.preflight.holdsDevice = false ∨
    (d.reader = .ended ∧ d.preflight.beforeConnected = true)

def Unshared (d : OpenDevice) : Prop :=
  d.preflight.holdsDevice = false ∨
    (d.reader = .ended ∧ d.preflight.beforeConnecting = true)

theorem owners_of_held (hheld : d.held = true) :
    d.owners = 1 + (if d.reader = .ended then 0 else 1) +
      d.preflight.holdsDevice.toNat + d.preflight.streams := by
  unfold owners
  rw [hheld]
  by_cases hreader : d.reader = .ended
  · simp [hreader]
  · simp [hreader]

theorem owners_le_two_iff (hheld : d.held = true) :
    d.owners <= 2 <-> d.Released := by
  rw [owners_of_held hheld]
  unfold Released
  rcases d.preflight.standing with
    ⟨hholds, hstreams, _⟩ | ⟨hholds, hbefore, hstreams, _⟩ |
      ⟨hholds, hbefore, _, hstreams⟩
  · simp only [hholds, hstreams, Bool.toNat_false]
    split <;> simp
  · simp only [hholds, hbefore, hstreams, Bool.toNat_true]
    split <;> simp_all
  · simp only [hholds, hbefore, Bool.toNat_true]
    constructor
    · intro hle
      omega
    · simp

theorem routerOwners_le_two_iff (hheld : d.held = true) :
    d.routerOwners <= 2 <-> d.Unshared := by
  unfold routerOwners
  rw [owners_of_held hheld]
  unfold Unshared
  rcases d.preflight.standing with
    ⟨hholds, hstreams, hconnects⟩ | ⟨hholds, _, hstreams, hbefore⟩ |
      ⟨hholds, _, hbefore, hstreams⟩
  · simp only [hholds, hstreams, hconnects, Bool.toNat_false]
    split <;> simp
  · simp only [hholds, hbefore, hstreams, Bool.toNat_true]
    split
    · simp_all
    · simp_all
      omega
  · simp only [hholds, hbefore, Bool.toNat_true]
    constructor
    · intro hle
      omega
    · simp

end OpenDevice

namespace Ownership

variable {debug : Bool} {s t : Ownership}

/-- A drop finds at most two owners of the router of its device. -/
def DropsOwned (s : Ownership) (a : Action) : Prop :=
  forall d, s.drops a = some d -> d.owners <= 2

def DropsReleased (s : Ownership) (a : Action) : Prop :=
  forall d, s.drops a = some d -> d.Released

def DropsUnshared (s : Ownership) (a : Action) : Prop :=
  forall d, s.drops a = some d -> d.Unshared

theorem dropsOwned_iff (h : Owned s) {a : Action}
    (hstep : step debug s a = some t) :
    s.DropsOwned a <-> s.DropsReleased a := by
  constructor
  · intro howned d hd
    exact (OpenDevice.owners_le_two_iff (h.held_of_drops hstep hd)).mp
      (howned d hd)
  · intro hreleased d hd
    exact (OpenDevice.owners_le_two_iff (h.held_of_drops hstep hd)).mpr
      (hreleased d hd)

theorem dropDevice_panics_iff {key : Nat} {closed : Bool} {next : UsbDaemon}
    {d : OpenDevice} (hstep : dropDevice true s key closed next = some t)
    (hd : s.devices key = some d) (hheld : d.held = true)
    (hnext : next ≠ .panicked) :
    t.daemon = .panicked <-> ¬ d.Unshared := by
  rw [← OpenDevice.routerOwners_le_two_iff hheld]
  rcases dropDevice_cases hstep with
    ⟨e, he, ⟨⟨_, hshared⟩, rfl⟩ | ⟨hunshared, rfl⟩⟩
  · cases hd.symm.trans he
    exact ⟨fun _ => Nat.not_le_of_lt hshared, fun _ => rfl⟩
  · cases hd.symm.trans he
    constructor
    · intro hpanicked
      exact absurd hpanicked hnext
    · intro hnot
      exact absurd ⟨rfl, Nat.lt_of_not_le hnot⟩ hunshared

theorem HandStep.daemon_ne_panicked (hstep : HandStep s t) :
    t.daemon ≠ .panicked := by
  rcases hstep with ⟨key, d, e, daemon, _, _, _, hnext, rfl⟩
  intro hpanicked
  cases hnext.symm.trans (congrArg UsbDaemon.inHand hpanicked)

theorem daemon_ne_panicked (hdaemon : s.daemon ≠ .panicked) {a : Action}
    (hdrops : s.drops a = none) (hstep : step true s a = some t) :
    t.daemon ≠ .panicked := by
  cases a with
  | connected device =>
      rcases connected_eq_some hstep with rfl
      exact fun hp => nomatch hp
  | retain key closed =>
      rcases retain_eq_some hstep with ⟨_, _, _, hd, _⟩
      cases hd.symm.trans hdrops
  | retained =>
      rcases retained_eq_some hstep with ⟨_, _, rfl⟩
      exact fun hp => nomatch hp
  | spawn => exact (handStep_spawn hstep).daemon_ne_panicked
  | insert =>
      rcases insert_eq_some hstep with ⟨_, d, _, _, rfl⟩
      cases s.connectedDevices d.device.id with
      | none => exact fun hp => nomatch hp
      | some old => exact fun hp => nomatch hp
  | disconnected id =>
      rcases disconnected_eq_some hstep with rfl | ⟨_, _, rfl⟩
      · exact hdaemon
      · exact fun hp => nomatch hp
  | cancel => exact (handStep_cancel hstep).daemon_ne_panicked
  | closeAll closed => exact (handStep_closeAll hstep).daemon_ne_panicked
  | drop closed =>
      rcases drop_eq_some hstep with ⟨key, hphase, hdrop⟩
      rcases dropDevice_cases hdrop with ⟨d, hd, _⟩
      unfold drops at hdrops
      rw [hphase] at hdrops
      cases hd.symm.trans hdrops
  | task key a =>
      rcases task_eq_some hstep with ⟨_, _, _, _, rfl⟩
      exact hdaemon

theorem daemon_panicked_iff (h : Owned s) (hdaemon : s.daemon ≠ .panicked)
    {a : Action} (hstep : step true s a = some t) :
    t.daemon = .panicked <-> ¬ s.DropsUnshared a := by
  cases hdrops : s.drops a with
  | none =>
      constructor
      · intro hp
        exact absurd hp (daemon_ne_panicked hdaemon hdrops hstep)
      · intro hnot
        refine absurd ?_ hnot
        intro d hd
        cases hdrops.symm.trans hd
  | some d =>
      have hheld := h.held_of_drops hstep hdrops
      have honly : s.DropsUnshared a <-> d.Unshared := by
        constructor
        · exact fun hall => hall d hdrops
        · intro hd e he
          cases hdrops.symm.trans he
          exact hd
      rw [honly]
      rcases drops_eq_some hdrops hstep with
        ⟨key, hd, _, u, closed, next, hsame, hnext, hdrop⟩
      exact dropDevice_panics_iff hdrop ((congrFun hsame key).trans hd) hheld
        hnext

/--
Every drop of a run finds at most two owners of the router exactly if it finds
the device released; and with debug assertions the daemon never panics in a run
exactly if every drop finds the device unshared.
-/
theorem atMostTwoOwners_iff (actions : List Action) :
    (forall debug,
      Machine.Stepwise (step debug) (fun s a _ => s.DropsOwned a) {} actions <->
        Machine.Guarded (step debug) DropsReleased {} actions) ∧
      (Machine.Throughout (step true) (fun s => s.daemon ≠ .panicked) {}
          actions <->
        Machine.Guarded (step true) DropsUnshared {} actions) := by
  constructor
  · intro debug
    exact Machine.stepwise_iff_guarded (J := Owned) (fun _ _ _ h => h.step)
      (fun _ _ _ h => dropsOwned_iff h) Owned.init actions
  · apply Machine.throughout_iff_guarded
      (J := fun s => Owned s ∧ s.daemon ≠ .panicked)
    · exact fun _ h => h.right
    · intro s a t h hstep hguard
      refine ⟨h.left.step hstep, ?_⟩
      intro hpanicked
      exact (daemon_panicked_iff h.left h.right hstep).mp hpanicked hguard
    · intro s a t h hstep hnot hrunning
      exact hrunning ((daemon_panicked_iff h.left h.right hstep).mpr hnot)
    · exact ⟨Owned.init, fun hp => nomatch hp⟩

def unpluggedUntrusted : List Action :=
  [.connected { id := 1, udid := "00008101" }, .retained, .spawn, .insert,
    .task 0 (.preflightStep .notFound), .task 0 (.preflightStep .ok),
    .task 0 (.preflightStep .ok),
    .task 0 (.preflightStep (.type "com.apple.mobile.lockdown")),
    .task 0 (.preflightStep .ok), .task 0 (.preflightStep (.version (some 17))),
    .task 0 (.preflightStep (.deviceClass "iPhone")),
    .task 0 (.preflightStep .dialogPending), .task 0 (.preflightStep .ok),
    .task 0 (.preflightStep .ok), .task 0 (.preflightStep .ok),
    .disconnected 1, .cancel, .closeAll true]

theorem not_atMostTwoOwners_trustDialog :
    ¬ forall debug actions,
      Machine.Stepwise (step debug) (fun s a _ => s.DropsOwned a) {}
        actions := by
  intro h
  have hdrop := h true (unpluggedUntrusted ++ [.drop true]) unpluggedUntrusted
    (.drop true) _ _ (List.prefix_refl _) rfl rfl _ rfl
  revert hdrop
  decide

end Ownership

end Watcher
end Rusbmux
