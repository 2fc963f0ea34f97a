import Rusbmux.Watcher.ListenerView

/-!
# A forced addition that fails

`add_device` with force takes the old network device out, waits for the new one
to open, and puts the old one back if that fails.  The watchers go on meanwhile.
This module runs their events next to each other with and without such a call,
for the registry and for what a listening client holds.
-/

namespace Rusbmux
namespace Watcher

open DeviceEvent

/-- The registry, and the ids that a listening client holds as attached. -/
structure Scene where
  registry : Registry
  view : Finset UInt64

/-- What a watcher handles while the call waits. -/
inductive WatcherEvent where
  | usbConnected (device : UsbDevice)
  | usbDisconnected (id : UInt64)
  | networkConnected (device : NetworkDevice)
  | networkDisconnected (id : UInt64)

namespace WatcherEvent

def operation : WatcherEvent -> Operation
  | usbConnected device => .usbConnected device
  | usbDisconnected id => .usbDisconnected id
  | networkConnected device => .networkConnected device
  | networkDisconnected id => .networkDisconnected id

def usbId : WatcherEvent -> Option UInt64
  | usbConnected device => some device.id
  | networkConnected _ | usbDisconnected _ | networkDisconnected _ => none

def networkId : WatcherEvent -> Option UInt64
  | networkConnected device => some device.id
  | usbConnected _ | usbDisconnected _ | networkDisconnected _ => none

end WatcherEvent

namespace Scene

def handle (s : Scene) (event : WatcherEvent) : Scene where
  registry := (s.registry.handle event.operation).fst
  view := replay s.view (s.registry.handle event.operation).snd

def handleAll (s : Scene) (events : List WatcherEvent) : Scene :=
  events.foldl handle s

def takeOut (s : Scene) (old : Device) : Scene where
  registry := s.registry.remove old.id
  view := s.view.erase old.id

def failedAdd (s : Scene) (udid : String) (events : List WatcherEvent) :
    Scene :=
  match s.registry.findNetworkByUdid udid with
  | none => s.handleAll events
  | some old =>
      let waited := (s.takeOut old).handleAll events
      { waited with registry := waited.registry.insert old }

/-- The same devices are registered and the same ids are held. -/
def Same (s t : Scene) : Prop :=
  (forall d, d ∈ s.registry <-> d ∈ t.registry) ∧ s.view = t.view

def Unused (s : Scene) (id : UInt64) : Prop :=
  (forall d, d ∈ s.registry -> d.id ≠ id) ∧ id ∉ s.view

/--
What the id counter promises: a network device arrives under an id of its own, a
USB device under one that no network device has, perhaps the one it had, and the
network watcher does not take a USB device for one of its own.
-/
structure Arrivals (s : Scene) (events : List WatcherEvent) : Prop where
  distinct : (events.filterMap WatcherEvent.networkId).Nodup
  unused : forall id, id ∈ events.filterMap WatcherEvent.networkId ->
    s.Unused id ∧ id ∉ events.filterMap WatcherEvent.usbId
  apart : forall id, id ∈ events.filterMap WatcherEvent.usbId ->
    forall n, Device.network n ∈ s.registry -> n.id ≠ id
  kinds : forall id, .networkDisconnected id ∈ events ->
    id ∉ events.filterMap WatcherEvent.usbId ∧
      forall u, Device.usb u ∈ s.registry -> u.id ≠ id

theorem failedAdd_nil (s : Scene) (device : NetworkDevice)
    (err : RusbmuxError) :
    s.failedAdd device.udid [] =
      { registry :=
          (s.registry.addPaired device true (.error err)).fst.fst
        view := replay s.view
          (s.registry.addPaired device true (.error err)).fst.snd } := by
  unfold failedAdd Registry.addPaired
  cases s.registry.findNetworkByUdid device.udid with
  | none => rfl
  | some old => rfl

end Scene

/-!
## What the wait does to the UDID
-/

/--
What becomes of one network device, taken out for the call: whether it leaves,
and whether clients would hold it without the call; the network device that takes
its place with the call; and the other devices that clients hold otherwise than
without the call, since they were announced in its place.
-/
structure Wait where
  departed : Bool := false
  held : Bool
  newcomer : Option NetworkDevice := none
  strays : Finset UInt64 := ∅

namespace Wait

def start (s : Scene) (old : NetworkDevice) : Wait where
  held := decide (old.id ∈ s.view)

def standIn (old : NetworkDevice) (s : Scene) (w : Wait) : Option UInt64 :=
  ((s.registry.remove old.id).findNetworkIdByUdid old.udid).or
    (w.newcomer.map NetworkDevice.id)

def settle (w : Wait) (id : UInt64) : Wait :=
  { w with strays := w.strays.erase id }

def announce (old : NetworkDevice) (s : Scene) (w : Wait) (attached : Bool) :
    Wait :=
  { w with
    held := attached
    strays :=
      match w.standIn old s with
      | none => w.strays
      | some id =>
          if decide (id ∈ s.view) = attached then w.strays.erase id
          else insert id w.strays }

def leave (old : NetworkDevice) (s : Scene) (w : Wait) (id : UInt64) : Wait :=
  if id = old.id then { w with departed := true }
  else
    match s.registry.get id with
    | some device =>
        if (s.registry.remove id).hasUsbWithUdid device.udid then w
        else w.settle id
    | none =>
        if w.newcomer.map NetworkDevice.id = some id then
          let left := { w with newcomer := none }
          if s.registry.hasUsbWithUdid old.udid then left else left.settle id
        else w

def next (old : NetworkDevice) (s : Scene) (w : Wait) : WatcherEvent -> Wait
  | .usbConnected device =>
      (if device.udid = old.udid then w.announce old s false else w).settle
        device.id
  | .usbDisconnected id =>
      match s.registry.get id with
      | some (.usb device) =>
          (if device.udid = old.udid then w.announce old s true else w).settle id
      | some (.network _) | none => w.leave old s id
  | .networkConnected device =>
      if device.udid = old.udid ∧ w.standIn old s = none then
        { w with
          newcomer := some device
          strays :=
            if s.registry.hasUsbWithUdid old.udid then w.strays
            else insert device.id w.strays }
      else w
  | .networkDisconnected id => w.leave old s id

theorem next_usbDisconnected (old : NetworkDevice) (s : Scene) (w : Wait)
    (id : UInt64) :
    w.next old s (.usbDisconnected id) =
      match s.registry.get id with
      | some (.usb device) =>
          (if device.udid = old.udid then w.announce old s true else w).settle id
      | some (.network _) | none => w.leave old s id := rfl

theorem next_networkConnected (old : NetworkDevice) (s : Scene) (w : Wait)
    (device : NetworkDevice) :
    w.next old s (.networkConnected device) =
      if device.udid = old.udid ∧ w.standIn old s = none then
        { w with
          newcomer := some device
          strays :=
            if s.registry.hasUsbWithUdid old.udid then w.strays
            else insert device.id w.strays }
      else w := rfl

def run (old : NetworkDevice) : Scene -> Wait -> List WatcherEvent -> Wait
  | _, w, [] => w
  | s, w, event :: rest => run old (s.handle event) (w.next old s event) rest

def after (s : Scene) (old : NetworkDevice) (events : List WatcherEvent) :
    Wait :=
  run old s (start s old) events

/--
The old device is still there, no other one has taken its place, clients would
not hold it, and they hold the others as they would.
-/
def Harmless (w : Wait) : Prop :=
  w.departed = false ∧ w.newcomer = none ∧ w.held = false ∧ w.strays = ∅

end Wait

/-!
## Lookups and changes of the registry
-/

namespace Registry

variable {R : Registry}

/-- A map has one device under an id. -/
def Keyed (R : Registry) : Prop :=
  forall d e, d ∈ R -> e ∈ R -> d.id = e.id -> d = e

theorem Keyed.remove (h : Keyed R) (id : UInt64) : Keyed (R.remove id) := by
  intro d e hd he
  exact h d e (mem_remove.mp hd).left (mem_remove.mp he).left

theorem Keyed.filter (h : Keyed R) (keep : Device -> Bool) :
    Keyed (List.filter keep R) := by
  intro d e hd he
  exact h d e (List.mem_filter.mp hd).left (List.mem_filter.mp he).left

theorem Keyed.insert (h : Keyed R) (dev : Device) : Keyed (insert R dev) := by
  intro d e hd he hid
  rcases mem_insert.mp hd with rfl | ⟨hd, hdne⟩
  · rcases mem_insert.mp he with rfl | ⟨_, hene⟩
    · rfl
    · exact absurd hid.symm hene
  · rcases mem_insert.mp he with rfl | ⟨he, _⟩
    · exact absurd hid hdne
    · exact h d e hd he hid

theorem get_of_mem (h : Keyed R) {d : Device} (hd : d ∈ R) :
    R.get d.id = some d := by
  cases hget : R.get d.id with
  | none => exact absurd rfl (get_eq_none hget d hd)
  | some e =>
      rcases get_eq_some hget with ⟨he, hid⟩
      rw [h e d he hd hid]

theorem remove_filter (keep : Device -> Bool) (id : UInt64) :
    remove (List.filter keep R) id = List.filter keep (R.remove id) := by
  unfold remove
  exact List.filter_comm _ _ _

theorem remove_of_unused {id : UInt64} (hunused : forall d, d ∈ R -> d.id ≠ id) :
    R.remove id = R := by
  apply List.filter_eq_self.mpr
  intro d hd
  exact decide_eq_true (hunused d hd)

theorem find_filter {keep p : Device -> Bool}
    (hkeep : forall d, d ∈ R -> p d = true -> keep d = true) :
    (R.filter keep).find? p = R.find? p := by
  induction R with
  | nil => rfl
  | cons d rest ih =>
      have hrest := ih fun e he => hkeep e (List.mem_cons_of_mem d he)
      cases hp : p d with
      | true =>
          have hk := hkeep d List.mem_cons_self hp
          rw [List.filter_cons_of_pos hk, List.find?_cons_of_pos hp,
            List.find?_cons_of_pos hp]
      | false =>
          have hnot : ¬ p d = true := by
            rw [hp]
            exact Bool.false_ne_true
          rw [List.find?_cons_of_neg hnot, ← hrest, List.filter_cons]
          split
          · exact List.find?_cons_of_neg hnot
          · rfl

theorem get_remove {id other : UInt64} (hne : id ≠ other) :
    (R.remove other).get id = R.get id := by
  apply find_filter
  intro d _ hd
  apply decide_eq_true
  rw [of_decide_eq_true hd]
  exact hne

theorem findNetworkByUdid_remove {id : UInt64} {udid : String}
    (hother : forall n, Device.network n ∈ R -> n.udid = udid -> n.id ≠ id) :
    (R.remove id).findNetworkByUdid udid = R.findNetworkByUdid udid := by
  apply find_filter
  intro d hd hmatch
  rcases Bool.and_eq_true_iff.mp hmatch with ⟨hkind, hudid⟩
  cases d with
  | usb u => cases hkind
  | network n =>
      exact decide_eq_true (hother n hd (of_decide_eq_true hudid))

theorem hasUsbWithUdid_congr {S : Registry}
    (h : forall u, Device.usb u ∈ R <-> Device.usb u ∈ S) (udid : String) :
    R.hasUsbWithUdid udid = S.hasUsbWithUdid udid := by
  rw [Bool.eq_iff_iff, hasUsbWithUdid_iff, hasUsbWithUdid_iff]
  unfold UsbHas
  simp only [h]

theorem hasNetworkWithUdid_eq (R : Registry) (udid : String) :
    R.hasNetworkWithUdid udid = (R.findNetworkIdByUdid udid).isSome := by
  unfold hasNetworkWithUdid findNetworkIdByUdid findNetworkByUdid
  rw [Option.isSome_map, Bool.eq_iff_iff, List.find?_isSome,
    List.any_eq_true]

/-!
## What an event names
-/

theorem mem_handle {event : WatcherEvent} {d : Device}
    (hd : d ∈ (R.handle event.operation).fst) :
    d ∈ R ∨ (exists u, d = .usb u ∧ event = .usbConnected u) ∨
      exists n, d = .network n ∧ event = .networkConnected n := by
  cases event with
  | usbConnected device =>
      rcases mem_usbConnected.mp hd with rfl | ⟨⟨hd, _⟩, _⟩
      · exact Or.inr (Or.inl ⟨device, rfl, rfl⟩)
      · exact Or.inl hd
  | usbDisconnected id =>
      revert hd
      show d ∈ (R.usbDisconnected id).fst -> _
      unfold usbDisconnected removeDevice
      cases R.get id with
      | none => exact Or.inl
      | some gone => exact fun hd => Or.inl (mem_remove.mp hd).left
  | networkConnected device =>
      revert hd
      show d ∈ (R.networkConnected device).fst -> _
      unfold networkConnected
      cases R.hasNetworkWithUdid device.udid with
      | true => exact Or.inl
      | false =>
          intro hd
          rcases mem_insert.mp hd with rfl | ⟨hd, _⟩
          · exact Or.inr (Or.inr ⟨device, rfl, rfl⟩)
          · exact Or.inl hd
  | networkDisconnected id =>
      revert hd
      show d ∈ (R.networkDisconnected id).fst -> _
      unfold networkDisconnected
      cases R.get id with
      | none => exact Or.inl
      | some gone => exact fun hd => Or.inl (mem_remove.mp hd).left

theorem attached_handle {event : WatcherEvent} {id : UInt64}
    (hid : .attached id ∈ (R.handle event.operation).snd) :
    (exists d, d ∈ R ∧ d.id = id) ∨ event.usbId = some id ∨
      event.networkId = some id := by
  have hfound : forall {S : Registry} {udid : String} {other : UInt64},
      S.findNetworkIdByUdid udid = some other ->
        exists d, d ∈ S ∧ d.id = other := by
    intro S udid other hfind
    rcases Option.map_eq_some_iff.mp hfind with ⟨d, hd, hother⟩
    exact ⟨d, List.mem_of_find?_eq_some hd, hother⟩
  cases event with
  | usbConnected device =>
      rcases List.mem_append.mp hid with hid | hid
      · split at hid <;> simp at hid
      · cases List.mem_singleton.mp hid
        exact Or.inr (Or.inl rfl)
  | usbDisconnected other =>
      revert hid
      show .attached id ∈ (R.usbDisconnected other).snd -> _
      unfold usbDisconnected removeDevice
      cases R.get other with
      | none => exact nofun
      | some gone =>
          cases gone with
          | network n => intro hid; simp at hid
          | usb u =>
              intro hid
              cases hfind : (R.remove other).findNetworkIdByUdid u.udid with
              | none => simp [hfind] at hid
              | some ndevId =>
                  have hsame : id = ndevId := by simpa [hfind] using hid
                  rcases hfound hfind with ⟨d, hd, hdid⟩
                  exact Or.inl
                    ⟨d, (mem_remove.mp hd).left, hdid.trans hsame.symm⟩
  | networkConnected device =>
      revert hid
      show .attached id ∈ (R.networkConnected device).snd -> _
      unfold networkConnected
      intro hid
      have hsame : id = device.id := by
        cases hknown : R.hasNetworkWithUdid device.udid with
        | true =>
            rw [hknown] at hid
            cases hid
        | false =>
            rw [hknown] at hid
            simp only [Bool.false_eq_true, if_false] at hid
            split at hid
            · cases hid
            · simpa using hid
      subst hsame
      exact Or.inr (Or.inr rfl)
  | networkDisconnected other =>
      revert hid
      show .attached id ∈ (R.networkDisconnected other).snd -> _
      unfold networkDisconnected
      cases R.get other with
      | none => exact nofun
      | some gone => intro hid; simp at hid

end Registry

theorem DeviceEvent.mem_replay {view : Finset UInt64}
    {events : List DeviceEvent} {id : UInt64} (hid : id ∈ replay view events) :
    id ∈ view ∨ .attached id ∈ events := by
  induction events generalizing view with
  | nil => exact Or.inl hid
  | cons event rest ih =>
      rcases ih hid with hid | hid
      · cases event with
        | attached other =>
            rcases (mem_apply_attached _ _ _).mp hid with rfl | hid
            · exact Or.inr List.mem_cons_self
            · exact Or.inl hid
        | detached other =>
            exact Or.inl ((mem_apply_detached _ _ _).mp hid).right
      · exact Or.inr (List.mem_cons_of_mem _ hid)

namespace Scene

variable {s : Scene} {event : WatcherEvent} {events : List WatcherEvent}

theorem Unused.handle {id : UInt64} (h : s.Unused id)
    (husb : event.usbId ≠ some id) (hnetwork : event.networkId ≠ some id) :
    (s.handle event).Unused id := by
  constructor
  · intro d hd hid
    rcases Registry.mem_handle hd with hd | ⟨u, rfl, rfl⟩ | ⟨n, rfl, rfl⟩
    · exact h.left d hd hid
    · exact husb (congrArg some hid)
    · exact hnetwork (congrArg some hid)
  · intro hview
    rcases mem_replay hview with hview | hid
    · exact h.right hview
    · rcases Registry.attached_handle hid with ⟨d, hd, hid⟩ | hid | hid
      · exact h.left d hd hid
      · exact husb hid
      · exact hnetwork hid

namespace Arrivals

theorem mem_filterMap_tail {f : WatcherEvent -> Option UInt64} {id : UInt64}
    (hid : id ∈ events.filterMap f) : id ∈ (event :: events).filterMap f := by
  rcases List.mem_filterMap.mp hid with ⟨e, he, hfe⟩
  exact List.mem_filterMap.mpr ⟨e, List.mem_cons_of_mem event he, hfe⟩

theorem mem_filterMap_head {f : WatcherEvent -> Option UInt64} {id : UInt64}
    (hid : f event = some id) : id ∈ (event :: events).filterMap f :=
  List.mem_filterMap.mpr ⟨event, List.mem_cons_self, hid⟩

theorem network_head (h : s.Arrivals (event :: events)) {id : UInt64}
    (hid : event.networkId = some id) : s.Unused id :=
  (h.unused id (mem_filterMap_head hid)).left

theorem usb_head (h : s.Arrivals (event :: events)) {id : UInt64}
    (hid : event.usbId = some id) :
    forall n, Device.network n ∈ s.registry -> n.id ≠ id :=
  h.apart id (mem_filterMap_head hid)

theorem kind_head {id : UInt64}
    (h : s.Arrivals (.networkDisconnected id :: events)) :
    forall u, Device.usb u ∈ s.registry -> u.id ≠ id :=
  (h.kinds id List.mem_cons_self).right

theorem head_ne (h : s.Arrivals (event :: events)) {id : UInt64}
    (hid : id ∈ events.filterMap WatcherEvent.networkId) :
    event.usbId ≠ some id ∧ event.networkId ≠ some id := by
  constructor
  · intro husb
    exact (h.unused id (mem_filterMap_tail hid)).right (mem_filterMap_head husb)
  · intro hnetwork
    have hdistinct := h.distinct
    rw [List.filterMap_cons_some hnetwork, List.nodup_cons] at hdistinct
    exact hdistinct.left hid

theorem tail (h : s.Arrivals (event :: events)) :
    (s.handle event).Arrivals events where
  distinct := by
    have hdistinct := h.distinct
    cases hid : event.networkId with
    | none =>
        rw [List.filterMap_cons_none hid] at hdistinct
        exact hdistinct
    | some first =>
        rw [List.filterMap_cons_some hid, List.nodup_cons] at hdistinct
        exact hdistinct.right
  unused id hid := by
    rcases h.unused id (mem_filterMap_tail hid) with ⟨hunused, husb⟩
    constructor
    · exact hunused.handle (h.head_ne hid).left (h.head_ne hid).right
    · exact fun hlater => husb (mem_filterMap_tail hlater)
  apart id hid n hn := by
    rcases Registry.mem_handle hn with hn | ⟨u, hu, _⟩ | ⟨m, hm, rfl⟩
    · exact h.apart id (mem_filterMap_tail hid) n hn
    · cases hu
    · cases hm
      rintro rfl
      exact (h.unused n.id (mem_filterMap_head rfl)).right
        (mem_filterMap_tail hid)
  kinds id hid := by
    rcases h.kinds id (List.mem_cons_of_mem event hid) with ⟨hlater, hkind⟩
    constructor
    · exact fun husb => hlater (mem_filterMap_tail husb)
    · intro u hu
      rcases Registry.mem_handle hu with hu | ⟨v, hv, rfl⟩ | ⟨n, hn, _⟩
      · exact hkind u hu
      · cases hv
        rintro rfl
        exact hlater (mem_filterMap_head rfl)
      · cases hn

end Arrivals

theorem keyed_handle (h : s.registry.Keyed) (event : WatcherEvent) :
    (s.handle event).registry.Keyed := by
  cases event with
  | usbConnected device => exact (h.filter _).insert (.usb device)
  | usbDisconnected id =>
      show (s.registry.usbDisconnected id).fst.Keyed
      unfold Registry.usbDisconnected Registry.removeDevice
      cases s.registry.get id with
      | none => exact h
      | some gone => exact h.remove id
  | networkConnected device =>
      show (s.registry.networkConnected device).fst.Keyed
      unfold Registry.networkConnected
      split
      · exact h
      · exact h.insert (.network device)
  | networkDisconnected id =>
      show (s.registry.networkDisconnected id).fst.Keyed
      unfold Registry.networkDisconnected
      cases s.registry.get id with
      | none => exact h
      | some gone => exact h.remove id

/-!
## Events that are handled
-/

def Leaves (event : WatcherEvent) (id : UInt64) : Prop :=
  event = .usbDisconnected id ∨ event = .networkDisconnected id

theorem handle_of_get_none {id : UInt64} (hleaves : Leaves event id)
    (hget : s.registry.get id = none) : s.handle event = s := by
  rcases hleaves with rfl | rfl
  · show Scene.mk (s.registry.usbDisconnected id).fst
      (replay s.view (s.registry.usbDisconnected id).snd) = s
    rw [Registry.usbDisconnected, Registry.removeDevice, hget]
    rfl
  · show Scene.mk (s.registry.networkDisconnected id).fst
      (replay s.view (s.registry.networkDisconnected id).snd) = s
    rw [Registry.networkDisconnected, hget]
    rfl

theorem handle_of_get_network {n : NetworkDevice} {id : UInt64}
    (hleaves : Leaves event id)
    (hget : s.registry.get id = some (.network n)) :
    s.handle event =
      { registry := s.registry.remove id
        view := replay s.view
          (if (s.registry.remove id).hasUsbWithUdid n.udid then []
            else [.detached id]) } := by
  rcases hleaves with rfl | rfl
  · have hid : id = n.id := (Registry.get_eq_some hget).right.symm
    show Scene.mk (s.registry.usbDisconnected id).fst
      (replay s.view (s.registry.usbDisconnected id).snd) = _
    rw [Registry.usbDisconnected, Registry.removeDevice, hget, hid]
  · show Scene.mk (s.registry.networkDisconnected id).fst
      (replay s.view (s.registry.networkDisconnected id).snd) = _
    rw [Registry.networkDisconnected, hget]
    rfl

theorem handle_of_get_usb {u : UsbDevice} {id : UInt64}
    (hget : s.registry.get id = some (.usb u)) :
    s.handle (.usbDisconnected id) =
      { registry := s.registry.remove id
        view := replay s.view
          (match (s.registry.remove id).findNetworkIdByUdid u.udid with
            | some ndevId => [.attached ndevId, .detached id]
            | none => [.detached id]) } := by
  show Scene.mk (s.registry.usbDisconnected id).fst
    (replay s.view (s.registry.usbDisconnected id).snd) = _
  cases hnext : (s.registry.remove id).findNetworkIdByUdid u.udid with
  | none =>
      simp only [Registry.usbDisconnected, Registry.removeDevice, hget, hnext]
  | some ndevId =>
      simp only [Registry.usbDisconnected, Registry.removeDevice, hget, hnext]

theorem handle_of_known {device : NetworkDevice}
    (hknown : (s.registry.findNetworkIdByUdid device.udid).isSome = true) :
    s.handle (.networkConnected device) = s := by
  show Scene.mk (s.registry.networkConnected device).fst
    (replay s.view (s.registry.networkConnected device).snd) = s
  rw [Registry.networkConnected, Registry.hasNetworkWithUdid_eq, if_pos hknown]
  rfl

theorem handle_of_unknown {device : NetworkDevice}
    (hunknown : s.registry.findNetworkIdByUdid device.udid = none) :
    s.handle (.networkConnected device) =
      { registry := s.registry.insert (.network device)
        view := replay s.view
          (if (s.registry.insert (.network device)).hasUsbWithUdid device.udid
            then [] else [.attached device.id]) } := by
  have hnot : ¬ s.registry.hasNetworkWithUdid device.udid = true := by
    rw [Registry.hasNetworkWithUdid_eq, hunknown]
    exact Bool.false_ne_true
  show Scene.mk (s.registry.networkConnected device).fst
    (replay s.view (s.registry.networkConnected device).snd) = _
  rw [Registry.networkConnected, if_neg hnot]

end Scene

end Watcher
end Rusbmux
