import Rusbmux.Foundation.Alternation
import Rusbmux.Watcher.ListenerView

/-!
# The discipline of the broadcast events

The registry operations in any order, with the log of what they broadcast.  A
network device is announced unless a USB device with its UDID hides it or a
failed forced addition has put it back; three operations announce its departure
without asking.  A USB device may come back under its id, and the stale entry of
one that comes again is dropped without a word.  The events of every id alternate
exactly as long as a departure finds a device that is announced, and no USB
device comes under an id that is still held.
-/

namespace Rusbmux
namespace Watcher

open Foundation

def DeviceEvent.mark : DeviceEvent -> Option (UInt64 × Bool)
  | attached id => some (id, true)
  | detached id => some (id, false)

structure Past where
  /--
  The network devices that a failed addition has put back, and that no USB device
  with their UDID has uncovered since.
  -/
  restored : List UInt64 := []
  /-- The ids under which USB devices have come. -/
  arrived : List UInt64 := []
  /-- The ids of USB devices that were dropped when their UDID came again. -/
  stale : List UInt64 := []

namespace Registry

def usbIds (R : Registry) (udid : String) : List UInt64 :=
  (R.filter fun dev => dev.isUsb && dev.udid = udid).map Device.id

def pastAfter (R : Registry) (past : Past) : Operation -> Past
  | .addDevice (.ok ()) device true (.error _) =>
      { past with
        restored :=
          (R.findNetworkIdByUdid device.udid).toList ++ past.restored }
  | .usbConnected device =>
      { past with
        arrived := device.id :: past.arrived
        stale := R.usbIds device.udid ++ past.stale }
  | .usbDisconnected id =>
      match R.get id with
      | some (.usb dev) =>
          { past with
            restored := past.restored.filter fun other =>
              R.findNetworkIdByUdid dev.udid ≠ some other }
      | _ => past
  | _ => past

theorem pastAfter_usbDisconnected (R : Registry) (past : Past) (id : UInt64) :
    R.pastAfter past (.usbDisconnected id) =
      match R.get id with
      | some (.usb dev) =>
          { past with
            restored := past.restored.filter fun other =>
              R.findNetworkIdByUdid dev.udid ≠ some other }
      | _ => past := rfl

theorem pastAfter_failed (R : Registry) (past : Past) (device : NetworkDevice)
    (err : RusbmuxError) :
    R.pastAfter past (.addDevice (.ok ()) device true (.error err)) =
      { past with
        restored := ((R.findNetworkByUdid device.udid).map Device.id).toList ++
          past.restored } := rfl

theorem mem_usbIds {R : Registry} {udid : String} {id : UInt64} :
    id ∈ R.usbIds udid <->
      exists u, Device.usb u ∈ R ∧ u.udid = udid ∧ u.id = id := by
  unfold usbIds
  constructor
  · intro hid
    rcases List.mem_map.mp hid with ⟨d, hd, rfl⟩
    rcases List.mem_filter.mp hd with ⟨hd, hkind⟩
    cases d with
    | network n => cases hkind
    | usb u => exact ⟨u, hd, of_decide_eq_true hkind, rfl⟩
  · intro hid
    rcases hid with ⟨u, hu, hudid, rfl⟩
    exact List.mem_map.mpr ⟨.usb u, List.mem_filter.mpr
      ⟨hu, decide_eq_true hudid⟩, rfl⟩

def Announces (R : Registry) (restored : List UInt64) (n : NetworkDevice) :
    Prop :=
  ¬ R.UsbHas n.udid ∧ n.id ∉ restored

def AllAnnounced (R : Registry) (restored : List UInt64) (udid : String) :
    Prop :=
  forall n, Device.network n ∈ R -> n.udid = udid -> R.Announces restored n

def HiddenOrAnnounced (R : Registry) (restored : List UInt64) (id : UInt64) :
    Prop :=
  forall n, Device.network n ∈ R -> n.id = id ->
    R.UsbHas n.udid ∨ n.id ∉ restored

def Vacant (R : Registry) (past : Past) (id : UInt64) : Prop :=
  (forall u, Device.usb u ∈ R -> u.id ≠ id) ∧ id ∉ past.stale

/--
The operation does not announce the departure of a network device that is not
announced, nor the arrival of a USB device under an id that is held.
-/
def FindsAnnounced (R : Registry) (past : Past) : Operation -> Prop
  | .usbConnected device =>
      R.AllAnnounced past.restored device.udid ∧ R.Vacant past device.id
  | .addDevice (.ok ()) device true _ =>
      R.AllAnnounced past.restored device.udid
  | .usbDisconnected id | .networkDisconnected id =>
      R.HiddenOrAnnounced past.restored id
  | _ => True

end Registry

section Marks

variable {held : List UInt64} {id other : UInt64}

@[simp] theorem admits_attached :
    Admits DeviceEvent.mark held (.attached id) <-> id ∉ held :=
  Iff.rfl

@[simp] theorem admits_detached :
    Admits DeviceEvent.mark held (.detached id) <-> id ∈ held :=
  Iff.rfl

@[simp] theorem mem_openNext_attached :
    other ∈ openNext DeviceEvent.mark held (.attached id) <->
      other = id ∨ other ∈ held := by
  simp [openNext, DeviceEvent.mark]

@[simp] theorem mem_openNext_detached :
    other ∈ openNext DeviceEvent.mark held (.detached id) <->
      other ∈ held ∧ other ≠ id := by
  simp [openNext, DeviceEvent.mark]

end Marks

/-- What is held once the events of an operation are read. -/
def heldAfter (held : List UInt64) (events : List DeviceEvent) : List UInt64 :=
  events.foldl (openNext DeviceEvent.mark) held

namespace Registry

/-!
## What the listening clients hold
-/

/--
The held ids are those of the devices that are announced, and the stale ones.
Network devices never have an id under which a USB device has come.
-/
structure Reflects (R : Registry) (past : Past) (held : List UInt64) :
    Prop where
  usb : forall id, id ∈ past.arrived ->
    (id ∈ held <-> ¬ R.Vacant past id)
  network : forall n, Device.network n ∈ R ->
    (n.id ∈ held <-> R.Announces past.restored n)
  arrived : forall u, Device.usb u ∈ R -> u.id ∈ past.arrived
  settled : forall u, Device.usb u ∈ R -> u.id ∉ past.stale
  apart : forall n, Device.network n ∈ R -> n.id ∉ past.arrived
  restored_apart : forall id, id ∈ past.restored -> id ∉ past.arrived
  stale_arrived : forall id, id ∈ past.stale -> id ∈ past.arrived

theorem not_vacant_iff {R : Registry} {past : Past} {id : UInt64} :
    ¬ R.Vacant past id <->
      (exists u, Device.usb u ∈ R ∧ u.id = id) ∨ id ∈ past.stale := by
  unfold Vacant
  rw [not_and_or, not_not]
  simp only [not_forall, not_not, exists_prop]

namespace Reflects

variable {R : Registry} {past : Past} {held next : List UInt64}

theorem held_usb (h : Reflects R past held) {u : UsbDevice}
    (hu : Device.usb u ∈ R) : u.id ∈ held :=
  (h.usb u.id (h.arrived u hu)).mpr
    (not_vacant_iff.mpr (Or.inl ⟨u, hu, rfl⟩))

theorem of_network (h : Reflects R past held) {S : Registry}
    (restored : List UInt64)
    (husb : forall u, Device.usb u ∈ S <-> Device.usb u ∈ R)
    (hheld : forall id, id ∈ past.arrived -> (id ∈ next <-> id ∈ held))
    (hnetwork : forall n, Device.network n ∈ S ->
      (n.id ∈ next <-> S.Announces restored n))
    (hapart : forall n, Device.network n ∈ S -> n.id ∉ past.arrived)
    (hrestored : forall id, id ∈ restored -> id ∉ past.arrived) :
    Reflects S { past with restored := restored } next where
  usb id hid := by
    rw [hheld id hid, h.usb id hid]
    unfold Vacant
    simp only [husb]
  network := hnetwork
  arrived u hu := h.arrived u ((husb u).mp hu)
  settled u hu := h.settled u ((husb u).mp hu)
  apart := hapart
  restored_apart := hrestored
  stale_arrived := h.stale_arrived

theorem remove_network (h : Reflects R past held) (hcoherent : Coherent R)
    {n : NetworkDevice} (hn : Device.network n ∈ R)
    (hnext : forall id, id ≠ n.id -> (id ∈ next <-> id ∈ held)) :
    Reflects (R.remove n.id) past next := by
  apply h.of_network past.restored
  · intro u
    rw [mem_remove]
    apply and_iff_left_of_imp
    intro hu hid
    exact h.apart n hn (hid ▸ h.arrived u hu)
  · intro id hid
    apply hnext
    rintro rfl
    exact h.apart n hn hid
  · intro m hm
    rcases mem_remove.mp hm with ⟨hm, hne⟩
    rw [hnext m.id hne, h.network m hm, Announces, Announces,
      usbHas_remove_network hcoherent hn]
  · intro m hm
    exact h.apart m (mem_remove.mp hm).left
  · exact h.restored_apart

theorem insert_network (h : Reflects R past held) {dev : NetworkDevice}
    (hfresh : forall d, d ∈ R -> d.id ≠ dev.id)
    (hrestored : dev.id ∉ past.restored) (hnew : dev.id ∉ past.arrived)
    (hnext : forall id, id ∈ next <->
      id = dev.id ∧ ¬ R.UsbHas dev.udid ∨ id ≠ dev.id ∧ id ∈ held) :
    Reflects (insert R (.network dev)) past next := by
  apply h.of_network past.restored
  · intro u
    rw [mem_insert]
    constructor
    · intro hu
      rcases hu with hu | ⟨hu, _⟩
      · cases hu
      · exact hu
    · intro hu
      exact Or.inr ⟨hu, hfresh (.usb u) hu⟩
  · intro id hid
    have hne : id ≠ dev.id := by
      rintro rfl
      exact hnew hid
    rw [hnext id]
    simp [hne]
  · intro m hm
    rw [hnext m.id, Announces, usbHas_insert_network hfresh]
    rcases mem_insert.mp hm with hm | ⟨hm, hne⟩
    · cases hm
      simp [hrestored]
    · have hne : m.id ≠ dev.id := hne
      rw [h.network m hm, Announces]
      simp [hne]
  · intro m hm
    rcases mem_insert.mp hm with hm | ⟨hm, _⟩
    · cases hm
      exact hnew
    · exact h.apart m hm
  · exact h.restored_apart

theorem insert_usb (h : Reflects R past held) {device : UsbDevice}
    (hfresh : forall d, d ∈ R -> d.id ≠ device.id)
    (hrestored : device.id ∉ past.restored) (hstale : device.id ∉ past.stale)
    (hnext : forall id, id ∈ next <->
      id = device.id ∨ id ∈ held ∧
        forall n, Device.network n ∈ R -> n.udid = device.udid -> id ≠ n.id)
    (hcoherent : Coherent R) :
    Reflects (R.usbConnected device).fst
      (R.pastAfter past (.usbConnected device)) next where
  usb id hid := by
    have hid : id = device.id ∨ id ∈ past.arrived := List.mem_cons.mp hid
    rw [hnext id, not_vacant_iff]
    show _ <-> _ ∨ id ∈ R.usbIds device.udid ++ past.stale
    rw [List.mem_append, mem_usbIds]
    by_cases hsame : id = device.id
    · subst hsame
      exact iff_of_true (Or.inl rfl)
        (Or.inl ⟨device, mem_usbConnected.mpr (Or.inl rfl), rfl⟩)
    · have hcame : id ∈ past.arrived := hid.resolve_left hsame
      have hnetwork : forall n, Device.network n ∈ R ->
          n.udid = device.udid -> id ≠ n.id := by
        rintro n hn _ rfl
        exact h.apart n hn hcame
      rw [h.usb id hcame, not_vacant_iff]
      constructor
      · intro hheld
        rcases hheld.resolve_left hsame with ⟨⟨u, hu, rfl⟩ | hold, _⟩
        · by_cases hudid : u.udid = device.udid
          · exact Or.inr (Or.inl ⟨u, hu, hudid, rfl⟩)
          · exact Or.inl ⟨u, mem_usbConnected.mpr
              (Or.inr ⟨⟨hu, Or.inr hudid⟩, hsame⟩), rfl⟩
        · exact Or.inr (Or.inr hold)
      · intro hheld
        refine Or.inr ⟨?_, hnetwork⟩
        rcases hheld with ⟨u, hu, rfl⟩ | ⟨u, hu, _, rfl⟩ | hold
        · rcases mem_usbConnected.mp hu with hu | ⟨⟨hu, _⟩, _⟩
          · cases hu
            exact absurd rfl hsame
          · exact Or.inl ⟨u, hu, rfl⟩
        · exact Or.inl ⟨u, hu, rfl⟩
        · exact Or.inr hold
  network m hm := by
    rcases mem_usbConnected.mp hm with hm | ⟨⟨hm, _⟩, hne⟩
    · cases hm
    · have hne : m.id ≠ device.id := hne
      show _ <-> Announces _ past.restored m
      rw [hnext m.id, h.network m hm, Announces, Announces,
        usbHas_usbConnected]
      constructor
      · intro hheld
        rcases hheld with hid | ⟨⟨hshown, hrestored⟩, hother⟩
        · exact absurd hid hne
        · refine ⟨?_, hrestored⟩
          intro husb
          rcases husb with hudid | ⟨u, hu, hudid, _, _⟩
          · exact hother m hm hudid rfl
          · exact hshown ⟨u, hu, hudid⟩
      · intro hshown
        have hudid : m.udid ≠ device.udid :=
          fun hudid => hshown.left (Or.inl hudid)
        refine Or.inr ⟨⟨?_, hshown.right⟩, ?_⟩
        · intro husb
          rcases husb with ⟨u, hu, huudid⟩
          exact hshown.left
            (Or.inr ⟨u, hu, huudid, hudid, hfresh (.usb u) hu⟩)
        · intro n hn hnudid hid
          cases hcoherent.id_unique _ _ hm hn hid
          exact hudid hnudid
  arrived u hu := by
    rcases mem_usbConnected.mp hu with hu | ⟨⟨hu, _⟩, _⟩
    · cases hu
      exact List.mem_cons_self
    · exact List.mem_cons_of_mem _ (h.arrived u hu)
  settled u hu := by
    show u.id ∉ R.usbIds device.udid ++ past.stale
    rw [List.mem_append, mem_usbIds, not_or]
    rcases mem_usbConnected.mp hu with hu | ⟨⟨hu, hkept⟩, _⟩
    · cases hu
      refine ⟨?_, hstale⟩
      rintro ⟨v, hv, _, hid⟩
      exact hfresh (.usb v) hv hid
    · refine ⟨?_, h.settled u hu⟩
      rintro ⟨v, hv, hudid, hid⟩
      cases hcoherent.id_unique _ _ hv hu hid
      rcases hkept with hkind | hother
      · cases hkind
      · exact hother hudid
  apart n hn := by
    rcases mem_usbConnected.mp hn with hn | ⟨⟨hn, _⟩, hne⟩
    · cases hn
    · intro hid
      exact (List.mem_cons.mp hid).elim hne (h.apart n hn)
  restored_apart id hid hcame := by
    rcases List.mem_cons.mp hcame with rfl | hcame
    · exact hrestored hid
    · exact h.restored_apart id hid hcame
  stale_arrived id hid := by
    rcases List.mem_append.mp hid with hdropped | hold
    · rcases mem_usbIds.mp hdropped with ⟨u, hu, _, rfl⟩
      exact List.mem_cons_of_mem _ (h.arrived u hu)
    · exact List.mem_cons_of_mem _ (h.stale_arrived id hold)

theorem remove_usb (h : Reflects R past held) {u : UsbDevice}
    (hcoherent : Coherent R) (hu : Device.usb u ∈ R) {restored : List UInt64}
    (hrestored : forall id, id ∈ restored <-> id ∈ past.restored ∧
      ¬ exists n, Device.network n ∈ R ∧ n.udid = u.udid ∧ n.id = id)
    (hnext : forall id, id ∈ next <-> id ≠ u.id ∧ (id ∈ held ∨
      exists n, Device.network n ∈ R ∧ n.udid = u.udid ∧ n.id = id)) :
    Reflects (R.remove u.id) { past with restored := restored } next where
  usb id hid := by
    have hcame : id ∈ past.arrived := hid
    have hnetwork : ¬ exists n, Device.network n ∈ R ∧ n.udid = u.udid ∧
        n.id = id := by
      rintro ⟨n, hn, _, rfl⟩
      exact h.apart n hn hcame
    rw [hnext id, or_iff_left hnetwork, h.usb id hcame, not_vacant_iff,
      not_vacant_iff]
    show _ <-> _ ∨ id ∈ past.stale
    constructor
    · intro hheld
      rcases hheld with ⟨hne, ⟨v, hv, rfl⟩ | hold⟩
      · exact Or.inl ⟨v, mem_remove.mpr ⟨hv, hne⟩, rfl⟩
      · exact Or.inr hold
    · intro hheld
      rcases hheld with ⟨v, hv, rfl⟩ | hold
      · rcases mem_remove.mp hv with ⟨hv, hne⟩
        exact ⟨hne, Or.inl ⟨v, hv, rfl⟩⟩
      · refine ⟨?_, Or.inr hold⟩
        rintro rfl
        exact h.settled u hu hold
  network m hm := by
    rcases mem_remove.mp hm with ⟨hm, hne⟩
    have hne : m.id ≠ u.id := hne
    have hsame : (exists n, Device.network n ∈ R ∧ n.udid = u.udid ∧
        n.id = m.id) <-> m.udid = u.udid := by
      constructor
      · intro hsome
        rcases hsome with ⟨n, hn, hudid, hid⟩
        cases hcoherent.id_unique _ _ hn hm hid
        exact hudid
      · intro hudid
        exact ⟨m, hm, hudid, rfl⟩
    rw [hnext m.id, h.network m hm, Announces, Announces, hrestored m.id,
      usbHas_remove_usb hcoherent hu, hsame]
    by_cases hudid : m.udid = u.udid
    · simp [hudid, hne]
    · simp [hudid, hne]
  arrived v hv := h.arrived v (mem_remove.mp hv).left
  settled v hv := h.settled v (mem_remove.mp hv).left
  apart n hn := h.apart n (mem_remove.mp hn).left
  restored_apart id hid := h.restored_apart id ((hrestored id).mp hid).left
  stale_arrived := h.stale_arrived

theorem restore (h : Reflects R past held) (hcoherent : Coherent R)
    {n : NetworkDevice} (hn : Device.network n ∈ R)
    (hnext : forall id, id ∈ next <-> id ∈ held ∧ id ≠ n.id) :
    Reflects (insert (R.remove n.id) (.network n))
      { past with restored := n.id :: past.restored } next := by
  have hsame : forall d, d ∈ insert (R.remove n.id) (.network n) <-> d ∈ R :=
    mem_reinsert hcoherent hn
  apply h.of_network (n.id :: past.restored)
  · intro u
    exact hsame (.usb u)
  · intro id hid
    rw [hnext id]
    apply and_iff_left
    rintro rfl
    exact h.apart n hn hid
  · intro m hm
    have hm : Device.network m ∈ R := (hsame _).mp hm
    have husb : (insert (R.remove n.id) (.network n)).UsbHas m.udid <->
        R.UsbHas m.udid := by
      unfold UsbHas
      simp only [hsame]
    rw [hnext m.id, h.network m hm, Announces, Announces, husb,
      List.mem_cons, not_or]
    tauto
  · intro m hm
    exact h.apart m ((hsame _).mp hm)
  · intro id hid
    rcases List.mem_cons.mp hid with rfl | hid
    · exact h.apart n hn
    · exact h.restored_apart id hid

end Reflects

/-!
## The events of the operations
-/

structure Fresh (R : Registry) (past : Past) (held : List UInt64)
    (id : UInt64) : Prop where
  registered : forall d, d ∈ R -> d.id ≠ id
  restored : id ∉ past.restored
  held : id ∉ held

def Brings (R : Registry) (past : Past) (held : List UInt64) :
    Operation -> Prop
  | .usbConnected device =>
      device.id ∈ past.arrived ∨ Fresh R past held device.id
  | .networkConnected device | .addDevice _ device _ _ =>
      Fresh R past held device.id ∧ device.id ∉ past.arrived
  | .usbDisconnected _ | .networkDisconnected _ => True

section Events

variable {R : Registry} {past : Past} {held : List UInt64}

theorem findNetworkIdByUdid_eq_some_iff (h : Coherent R) {udid : String}
    {id : UInt64} :
    R.findNetworkIdByUdid udid = some id <->
      exists n, Device.network n ∈ R ∧ n.udid = udid ∧ n.id = id := by
  unfold findNetworkIdByUdid
  cases hfind : R.findNetworkByUdid udid with
  | none =>
      have hnone := findNetworkByUdid_eq_none_iff.mp hfind
      constructor
      · intro hsome
        cases hsome
      · intro hsome
        rcases hsome with ⟨n, hn, hudid, _⟩
        exact absurd hudid (hnone n hn)
  | some d =>
      rcases findNetworkByUdid_eq_some hfind with ⟨n, rfl, hn, hudid⟩
      simp only [Option.map_some, Device.id, Option.some.injEq]
      constructor
      · intro hid
        exact ⟨n, hn, hudid, hid⟩
      · intro hsome
        rcases hsome with ⟨m, hm, hmudid, hid⟩
        cases h.network_unique m n hm hn (hmudid.trans hudid.symm)
        exact hid

theorem forall_network_iff (h : Coherent R) {n : NetworkDevice}
    (hn : Device.network n ∈ R) {udid : String} (hudid : n.udid = udid)
    (p : NetworkDevice -> Prop) :
    (forall m, Device.network m ∈ R -> m.udid = udid -> p m) <-> p n := by
  constructor
  · intro hall
    exact hall n hn hudid
  · intro hp m hm hmudid
    cases h.network_unique m n hm hn (hmudid.trans hudid.symm)
    exact hp

theorem allAnnounced_iff (h : Reflects R past held)
    (hcoherent : Coherent R) {n : NetworkDevice} (hn : Device.network n ∈ R)
    {udid : String} (hudid : n.udid = udid) :
    R.AllAnnounced past.restored udid <-> n.id ∈ held := by
  rw [h.network n hn]
  exact forall_network_iff hcoherent hn hudid (R.Announces past.restored)

theorem allAnnounced_of_none {udid : String}
    (hfind : R.findNetworkByUdid udid = none) :
    R.AllAnnounced past.restored udid := by
  intro n hn hudid
  exact absurd hudid (findNetworkByUdid_eq_none_iff.mp hfind n hn)

theorem fits_insert_network {dev : NetworkDevice} (hheld : dev.id ∉ held) :
    Fits DeviceEvent.mark held
      (if (insert R (.network dev)).hasUsbWithUdid dev.udid then []
        else [.attached dev.id]) := by
  cases (insert R (.network dev)).hasUsbWithUdid dev.udid with
  | true => trivial
  | false => exact ⟨hheld, trivial⟩

theorem reflects_insert_network (h : Reflects R past held)
    {dev : NetworkDevice} (hfresh : Fresh R past held dev.id)
    (hnew : dev.id ∉ past.arrived) :
    Reflects (insert R (.network dev)) past
      (heldAfter held
        (if (insert R (.network dev)).hasUsbWithUdid dev.udid then []
          else [.attached dev.id])) := by
  apply h.insert_network hfresh.registered hfresh.restored hnew
  intro id
  have husb : (insert R (.network dev)).hasUsbWithUdid dev.udid = true <->
      R.UsbHas dev.udid := by
    rw [hasUsbWithUdid_iff, usbHas_insert_network hfresh.registered]
  have hne : id ∈ held -> id ≠ dev.id := by
    intro hid heq
    exact hfresh.held (heq ▸ hid)
  by_cases hhidden : R.UsbHas dev.udid
  · rw [if_pos (husb.mpr hhidden)]
    simp only [heldAfter, List.foldl_nil, hhidden]
    tauto
  · rw [if_neg (fun hhas => hhidden (husb.mp hhas))]
    simp only [heldAfter, List.foldl_cons, List.foldl_nil,
      mem_openNext_attached, hhidden]
    tauto

theorem fits_remove_network_iff (h : Reflects R past held)
    (hcoherent : Coherent R) {n : NetworkDevice} (hn : Device.network n ∈ R) :
    Fits DeviceEvent.mark held
        (if (R.remove n.id).hasUsbWithUdid n.udid then []
          else [.detached n.id]) <->
      R.UsbHas n.udid ∨ n.id ∉ past.restored := by
  have husb : (R.remove n.id).hasUsbWithUdid n.udid = true <->
      R.UsbHas n.udid := by
    rw [hasUsbWithUdid_iff, usbHas_remove_network hcoherent hn]
  by_cases hhidden : R.UsbHas n.udid
  · rw [if_pos (husb.mpr hhidden)]
    exact iff_of_true trivial (Or.inl hhidden)
  · rw [if_neg (fun hhas => hhidden (husb.mp hhas))]
    simp only [Fits, admits_detached, and_true, h.network n hn, Announces]
    tauto

theorem reflects_remove_network (h : Reflects R past held)
    (hcoherent : Coherent R) {n : NetworkDevice} (hn : Device.network n ∈ R) :
    Reflects (R.remove n.id) past
      (heldAfter held
        (if (R.remove n.id).hasUsbWithUdid n.udid then []
          else [.detached n.id])) := by
  apply h.remove_network hcoherent hn
  intro id hne
  cases (R.remove n.id).hasUsbWithUdid n.udid with
  | true => exact Iff.rfl
  | false => simp [heldAfter, hne]

theorem Fresh.vacant (h : Reflects R past held) {id : UInt64}
    (hfresh : Fresh R past held id) : R.Vacant past id := by
  constructor
  · intro u hu
    exact hfresh.registered (.usb u) hu
  · intro hstale
    apply hfresh.held
    exact (h.usb id (h.stale_arrived id hstale)).mpr fun h => h.right hstale

theorem Fresh.of_vacant (h : Reflects R past held) {id : UInt64}
    (hcame : id ∈ past.arrived) (hvacant : R.Vacant past id) :
    Fresh R past held id where
  registered d hd hid := by
    cases d with
    | usb u => exact hvacant.left u hd hid
    | network n =>
        subst hid
        exact h.apart n hd hcame
  restored hrestored := h.restored_apart id hrestored hcame
  held hheld := (h.usb id hcame).mp hheld hvacant

theorem fresh_of_vacant (h : Reflects R past held) {device : UsbDevice}
    (hbrings : Brings R past held (.usbConnected device))
    (hvacant : R.Vacant past device.id) : Fresh R past held device.id := by
  rcases hbrings with hcame | hfresh
  · exact Fresh.of_vacant h hcame hvacant
  · exact hfresh

theorem fits_usbConnected_fresh_iff (h : Reflects R past held)
    (hcoherent : Coherent R) {device : UsbDevice}
    (hfresh : Fresh R past held device.id) :
    Fits DeviceEvent.mark held (R.usbConnected device).snd <->
      R.AllAnnounced past.restored device.udid := by
  unfold usbConnected findNetworkIdByUdid
  cases hfind : R.findNetworkByUdid device.udid with
  | none =>
      apply iff_of_true
      · exact ⟨hfresh.held, trivial⟩
      · exact allAnnounced_of_none hfind
  | some d =>
      rcases findNetworkByUdid_eq_some hfind with ⟨n, rfl, hn, hudid⟩
      rw [allAnnounced_iff h hcoherent hn hudid]
      simp [Fits, Device.id, hfresh.held]

theorem not_fits_usbConnected (hcoherent : Coherent R) {device : UsbDevice}
    (hheld : device.id ∈ held)
    (hapart : forall n, Device.network n ∈ R -> n.id ≠ device.id) :
    ¬ Fits DeviceEvent.mark held (R.usbConnected device).snd := by
  unfold usbConnected
  cases hfind : R.findNetworkIdByUdid device.udid with
  | none =>
      intro hfits
      exact hfits.left hheld
  | some ndevId =>
      rcases (findNetworkIdByUdid_eq_some_iff hcoherent).mp hfind with
        ⟨n, hn, _, rfl⟩
      intro hfits
      apply hfits.right.left
      exact mem_openNext_detached.mpr ⟨hheld, (hapart n hn).symm⟩

theorem fits_usbConnected_iff (h : Reflects R past held)
    (hcoherent : Coherent R) {device : UsbDevice}
    (hbrings : Brings R past held (.usbConnected device)) :
    Fits DeviceEvent.mark held (R.usbConnected device).snd <->
      R.FindsAnnounced past (.usbConnected device) := by
  by_cases hvacant : R.Vacant past device.id
  · rw [fits_usbConnected_fresh_iff h hcoherent
      (fresh_of_vacant h hbrings hvacant)]
    exact (and_iff_left hvacant).symm
  · refine iff_of_false ?_ fun hfound => hvacant hfound.right
    rcases hbrings with hcame | hfresh
    · apply not_fits_usbConnected hcoherent ((h.usb _ hcame).mpr hvacant)
      intro n hn hid
      exact h.apart n hn (hid ▸ hcame)
    · exact absurd (hfresh.vacant h) hvacant

theorem reflects_usbConnected (h : Reflects R past held)
    (hcoherent : Coherent R) {device : UsbDevice}
    (hfresh : Fresh R past held device.id) :
    Reflects (R.usbConnected device).fst
      (R.pastAfter past (.usbConnected device))
      (heldAfter held (R.usbConnected device).snd) := by
  apply h.insert_usb hfresh.registered hfresh.restored
    (hfresh.vacant h).right _ hcoherent
  intro id
  unfold usbConnected findNetworkIdByUdid
  cases hfind : R.findNetworkByUdid device.udid with
  | none =>
      have hnone := findNetworkByUdid_eq_none_iff.mp hfind
      simp only [Option.map_none, List.nil_append, heldAfter, List.foldl_cons,
        List.foldl_nil, mem_openNext_attached]
      constructor
      · intro hid
        exact hid.imp_right fun hheld =>
          ⟨hheld, fun n hn hudid => absurd hudid (hnone n hn)⟩
      · intro hid
        exact hid.imp_right And.left
  | some d =>
      rcases findNetworkByUdid_eq_some hfind with ⟨n, rfl, hn, hudid⟩
      rw [forall_network_iff hcoherent hn hudid (fun m => id ≠ m.id)]
      simp [heldAfter, Device.id]

theorem fits_networkConnected {dev : NetworkDevice} (hheld : dev.id ∉ held) :
    Fits DeviceEvent.mark held (R.networkConnected dev).snd := by
  unfold networkConnected
  cases R.hasNetworkWithUdid dev.udid with
  | true => trivial
  | false => exact fits_insert_network hheld

theorem reflects_networkConnected (h : Reflects R past held)
    {dev : NetworkDevice} (hfresh : Fresh R past held dev.id)
    (hnew : dev.id ∉ past.arrived) :
    Reflects (R.networkConnected dev).fst past
      (heldAfter held (R.networkConnected dev).snd) := by
  unfold networkConnected
  cases R.hasNetworkWithUdid dev.udid with
  | true => exact h
  | false => exact reflects_insert_network h hfresh hnew

theorem hiddenOrAnnounced_iff (hcoherent : Coherent R) {n : NetworkDevice}
    (hn : Device.network n ∈ R) :
    R.HiddenOrAnnounced past.restored n.id <->
      R.UsbHas n.udid ∨ n.id ∉ past.restored := by
  constructor
  · intro hall
    exact hall n hn rfl
  · intro hfound m hm hid
    cases hcoherent.id_unique _ _ hm hn hid
    exact hfound

theorem fits_networkDisconnected_iff (h : Reflects R past held)
    (hcoherent : Coherent R) {id : UInt64}
    (hkind : forall u, Device.usb u ∈ R -> u.id ≠ id) :
    Fits DeviceEvent.mark held (R.networkDisconnected id).snd <->
      R.HiddenOrAnnounced past.restored id := by
  unfold networkDisconnected
  cases hget : R.get id with
  | none =>
      apply iff_of_true trivial
      intro n hn hid
      exact absurd hid (get_eq_none hget _ hn)
  | some d =>
      rcases get_eq_some hget with ⟨hd, rfl⟩
      cases d with
      | usb u => exact absurd rfl (hkind u hd)
      | network n =>
          exact (fits_remove_network_iff h hcoherent hd).trans
            (hiddenOrAnnounced_iff hcoherent hd).symm

theorem reflects_networkDisconnected (h : Reflects R past held)
    (hcoherent : Coherent R) {id : UInt64}
    (hkind : forall u, Device.usb u ∈ R -> u.id ≠ id) :
    Reflects (R.networkDisconnected id).fst past
      (heldAfter held (R.networkDisconnected id).snd) := by
  unfold networkDisconnected
  cases hget : R.get id with
  | none => exact h
  | some d =>
      rcases get_eq_some hget with ⟨hd, rfl⟩
      cases d with
      | usb u => exact absurd rfl (hkind u hd)
      | network n => exact reflects_remove_network h hcoherent hd

theorem findNetworkIdByUdid_remove_usb_eq (hcoherent : Coherent R)
    {u : UsbDevice} (hu : Device.usb u ∈ R) :
    (R.remove u.id).findNetworkIdByUdid u.udid =
      R.findNetworkIdByUdid u.udid := by
  ext id
  show _ = some id <-> _ = some id
  rw [findNetworkIdByUdid_eq_some_iff (hcoherent.remove u.id),
    findNetworkIdByUdid_eq_some_iff hcoherent]
  constructor
  · intro hsome
    rcases hsome with ⟨n, hn, hudid, hid⟩
    exact ⟨n, (mem_remove.mp hn).left, hudid, hid⟩
  · intro hsome
    rcases hsome with ⟨n, hn, hudid, hid⟩
    refine ⟨n, mem_remove.mpr ⟨hn, ?_⟩, hudid, hid⟩
    intro hsame
    cases hcoherent.id_unique _ _ hn hu hsame

theorem fits_usbDisconnected_iff (h : Reflects R past held)
    (hcoherent : Coherent R) (id : UInt64) :
    Fits DeviceEvent.mark held (R.usbDisconnected id).snd <->
      R.HiddenOrAnnounced past.restored id := by
  unfold usbDisconnected removeDevice
  cases hget : R.get id with
  | none =>
      apply iff_of_true trivial
      intro n hn hid
      exact absurd hid (get_eq_none hget _ hn)
  | some d =>
      rcases get_eq_some hget with ⟨hd, rfl⟩
      cases d with
      | network n =>
          exact (fits_remove_network_iff h hcoherent hd).trans
            (hiddenOrAnnounced_iff hcoherent hd).symm
      | usb u =>
          have hnone : R.HiddenOrAnnounced past.restored u.id := by
            intro n hn hid
            cases hcoherent.id_unique _ _ hn hd hid
          refine iff_of_true ?_ hnone
          simp only [Device.id, findNetworkIdByUdid_remove_usb_eq hcoherent hd]
          cases hfind : R.findNetworkIdByUdid u.udid with
          | none => exact ⟨h.held_usb hd, trivial⟩
          | some ndevId =>
              rcases (findNetworkIdByUdid_eq_some_iff hcoherent).mp hfind with
                ⟨n, hn, hudid, rfl⟩
              -- The USB device that goes away is the one that hides it.
              have hhidden : n.id ∉ held := by
                rw [h.network n hn, Announces, hudid]
                exact fun hshown => hshown.left ⟨u, hd, rfl⟩
              exact ⟨hhidden,
                mem_openNext_attached.mpr (Or.inr (h.held_usb hd)), trivial⟩

theorem reflects_usbDisconnected (h : Reflects R past held)
    (hcoherent : Coherent R) (id : UInt64) :
    Reflects (R.usbDisconnected id).fst
      (R.pastAfter past (.usbDisconnected id))
      (heldAfter held (R.usbDisconnected id).snd) := by
  rw [pastAfter_usbDisconnected]
  unfold usbDisconnected removeDevice
  cases hget : R.get id with
  | none => exact h
  | some d =>
      rcases get_eq_some hget with ⟨hd, rfl⟩
      cases d with
      | network n => exact reflects_remove_network h hcoherent hd
      | usb u =>
          have hfound : forall other,
              R.findNetworkIdByUdid u.udid = some other <->
                exists n, Device.network n ∈ R ∧ n.udid = u.udid ∧
                  n.id = other :=
            fun _ => findNetworkIdByUdid_eq_some_iff hcoherent
          apply h.remove_usb hcoherent hd
          · intro other
            rw [List.mem_filter, decide_eq_true_iff, Ne, hfound other]
          · intro other
            rw [← hfound other]
            simp only [Device.id,
              findNetworkIdByUdid_remove_usb_eq hcoherent hd]
            cases R.findNetworkIdByUdid u.udid with
            | none => simp [heldAfter, and_comm]
            | some ndevId =>
                simp only [heldAfter, List.foldl_cons, List.foldl_nil,
                  mem_openNext_attached, mem_openNext_detached,
                  Option.some.injEq]
                tauto

theorem fits_addPaired_iff (h : Reflects R past held)
    (hcoherent : Coherent R) {device : NetworkDevice}
    (hfresh : Fresh R past held device.id) (force : Bool)
    (opened : Except RusbmuxError Unit) :
    Fits DeviceEvent.mark held
        (R.addPaired device force opened).fst.snd <->
      (force = true -> R.AllAnnounced past.restored device.udid) := by
  unfold addPaired
  cases hfind : R.findNetworkByUdid device.udid with
  | none =>
      refine iff_of_true ?_ fun _ => allAnnounced_of_none hfind
      cases opened with
      | error err => trivial
      | ok _ => exact fits_insert_network hfresh.held
  | some old =>
      rcases findNetworkByUdid_eq_some hfind with ⟨n, rfl, hn, hudid⟩
      cases force with
      | false => exact iff_of_true trivial fun hforce => Bool.noConfusion hforce
      | true =>
          simp only [forall_const, allAnnounced_iff h hcoherent hn hudid]
          cases opened with
          | error err => exact and_iff_left trivial
          | ok _ =>
              apply and_iff_left
              apply fits_insert_network
              intro hid
              exact hfresh.held (mem_openNext_detached.mp hid).left

theorem reflects_addPaired (h : Reflects R past held)
    (hcoherent : Coherent R) {device : NetworkDevice}
    (hfresh : Fresh R past held device.id) (hnew : device.id ∉ past.arrived)
    (force : Bool) (opened : Except RusbmuxError Unit) :
    Reflects (R.addPaired device force opened).fst.fst
      (R.pastAfter past (.addDevice (.ok ()) device force opened))
      (heldAfter held (R.addPaired device force opened).fst.snd) := by
  unfold addPaired
  cases hfind : R.findNetworkByUdid device.udid with
  | none =>
      cases opened with
      | error err =>
          cases force with
          | false => exact h
          | true =>
              rw [pastAfter_failed, hfind]
              exact h
      | ok _ =>
          cases force with
          | false => exact reflects_insert_network h hfresh hnew
          | true => exact reflects_insert_network h hfresh hnew
  | some old =>
      rcases findNetworkByUdid_eq_some hfind with ⟨n, rfl, hn, hudid⟩
      cases force with
      | false => exact h
      | true =>
          cases opened with
          | error err =>
              rw [pastAfter_failed, hfind]
              apply h.restore hcoherent hn
              intro id
              exact mem_openNext_detached
          | ok _ =>
              have hremoved : Reflects (R.remove n.id) past
                  (heldAfter held [.detached n.id]) := by
                apply h.remove_network hcoherent hn
                intro id hne
                simp [heldAfter, hne]
              apply reflects_insert_network hremoved _ hnew
              constructor
              · intro d hd
                exact hfresh.registered d (mem_remove.mp hd).left
              · exact hfresh.restored
              · intro hid
                exact hfresh.held (mem_openNext_detached.mp hid).left

theorem fits_handle_iff (h : Reflects R past held)
    (hcoherent : Coherent R) {operation : Operation}
    (hbrings : Brings R past held operation)
    (hpermits : R.permits operation = true) :
    Fits DeviceEvent.mark held (R.handle operation).snd <->
      R.FindsAnnounced past operation := by
  cases operation with
  | usbConnected device =>
      exact fits_usbConnected_iff h hcoherent hbrings
  | usbDisconnected id => exact fits_usbDisconnected_iff h hcoherent id
  | networkConnected device =>
      exact iff_of_true (fits_networkConnected hbrings.left.held) trivial
  | networkDisconnected id =>
      exact fits_networkDisconnected_iff h hcoherent (permits_kind hpermits)
  | addDevice pairing device force opened =>
      cases pairing with
      | error err => exact iff_of_true trivial trivial
      | ok _ =>
          apply (fits_addPaired_iff h hcoherent hbrings.left force opened).trans
          cases force with
          | false =>
              apply iff_of_true _ trivial
              intro hforce
              cases hforce
          | true => exact ⟨fun hall => hall rfl, fun hall _ => hall⟩

theorem reflects_handle (h : Reflects R past held)
    (hcoherent : Coherent R) {operation : Operation}
    (hbrings : Brings R past held operation)
    (hpermits : R.permits operation = true)
    (hfound : R.FindsAnnounced past operation) :
    Reflects (R.handle operation).fst (R.pastAfter past operation)
      (heldAfter held (R.handle operation).snd) := by
  cases operation with
  | usbConnected device =>
      exact reflects_usbConnected h hcoherent
        (fresh_of_vacant h hbrings hfound.right)
  | usbDisconnected id => exact reflects_usbDisconnected h hcoherent id
  | networkConnected device =>
      exact reflects_networkConnected h hbrings.left hbrings.right
  | networkDisconnected id =>
      exact reflects_networkDisconnected h hcoherent (permits_kind hpermits)
  | addDevice pairing device force opened =>
      cases pairing with
      | error err => exact h
      | ok _ =>
          exact reflects_addPaired h hcoherent hbrings.left hbrings.right force
            opened

theorem mem_restored_pastAfter {operation : Operation} {id : UInt64}
    (hid : id ∈ (R.pastAfter past operation).restored) :
    id ∈ past.restored ∨ .detached id ∈ (R.handle operation).snd := by
  cases operation with
  | usbConnected device => exact Or.inl hid
  | networkConnected device => exact Or.inl hid
  | networkDisconnected other => exact Or.inl hid
  | usbDisconnected other =>
      rw [pastAfter_usbDisconnected] at hid
      refine Or.inl ?_
      split at hid
      · exact (List.mem_filter.mp hid).left
      · exact hid
  | addDevice pairing device force opened =>
      cases pairing with
      | error err => exact Or.inl hid
      | ok _ =>
          cases force with
          | false => exact Or.inl hid
          | true =>
              cases opened with
              | ok _ => exact Or.inl hid
              | error err =>
                  rw [pastAfter_failed] at hid
                  show id ∈ past.restored ∨
                    .detached id ∈ (R.addPaired device true (.error err)).fst.snd
                  unfold addPaired
                  cases hfind : R.findNetworkByUdid device.udid with
                  | none =>
                      rw [hfind] at hid
                      exact Or.inl hid
                  | some old =>
                      rw [hfind] at hid
                      rcases List.mem_append.mp hid with hid | hid
                      · have hold : id = old.id := by simpa using hid
                        subst hold
                        exact Or.inr List.mem_cons_self
                      · exact Or.inl hid

theorem mem_arrived_pastAfter {operation : Operation} {id : UInt64}
    (hid : id ∈ (R.pastAfter past operation).arrived) :
    id ∈ past.arrived ∨ .attached id ∈ (R.handle operation).snd := by
  cases operation with
  | usbConnected device =>
      rcases List.mem_cons.mp hid with rfl | hid
      · exact Or.inr (List.mem_append_right _ List.mem_cons_self)
      · exact Or.inl hid
  | networkConnected device => exact Or.inl hid
  | networkDisconnected other => exact Or.inl hid
  | usbDisconnected other =>
      rw [pastAfter_usbDisconnected] at hid
      split at hid <;> exact Or.inl hid
  | addDevice pairing device force opened =>
      cases pairing <;> cases force <;> cases opened <;> exact Or.inl hid

end Events

end Registry

/-!
## Runs of operations
-/

structure Broadcast where
  registry : Registry := []
  log : List DeviceEvent := []
  past : Past := {}

namespace Broadcast

def isNew (s : Broadcast) (id : UInt64) : Bool :=
  (s.registry.all fun dev => dev.id ≠ id) && s.log.all fun e => e.deviceId ≠ id

/--
What the id counter promises: a device comes under a new id, or it is a USB
device that is opened again under the id it had.
-/
def permits (s : Broadcast) : Operation -> Bool
  | .usbConnected device =>
      s.past.arrived.contains device.id || s.isNew device.id
  | .networkConnected device | .addDevice _ device _ _ => s.isNew device.id
  | .usbDisconnected _ => true
  | .networkDisconnected id => s.registry.permits (.networkDisconnected id)

def step : Machine Broadcast Operation
  | s, operation =>
      if s.permits operation then
        some
          { registry := (s.registry.handle operation).fst
            log := s.log ++ (s.registry.handle operation).snd
            past := s.registry.pastAfter s.past operation }
      else
        none

/-- The events of every id alternate, an attachment first. -/
def Disciplined (s : Broadcast) : Prop :=
  forall id, Alternates (marksOf DeviceEvent.mark id s.log)

def FindsAnnounced (s : Broadcast) (operation : Operation) : Prop :=
  s.registry.FindsAnnounced s.past operation

structure Tracked (s : Broadcast) : Prop where
  coherent : s.registry.Coherent
  reflected : exists held, Alternating DeviceEvent.mark s.log held ∧
    s.registry.Reflects s.past held
  restored_named : forall id, id ∈ s.past.restored -> .detached id ∈ s.log
  arrived_named : forall id, id ∈ s.past.arrived -> .attached id ∈ s.log

theorem Tracked.nil : Tracked {} where
  coherent := Registry.Coherent.nil
  reflected := by
    refine ⟨[], Alternating.nil, ?_⟩
    constructor <;> intro _ h <;> cases h
  restored_named id hid := by
    cases hid
  arrived_named id hid := by
    cases hid

theorem not_mem_held {log : List DeviceEvent} {held : List UInt64}
    (halternating : Alternating DeviceEvent.mark log held) {id : UInt64}
    (hunnamed : forall e, e ∈ log -> e.deviceId ≠ id) : id ∉ held := by
  have hmarks : marksOf DeviceEvent.mark id log = [] := by
    apply List.filterMap_eq_nil_iff.mpr
    intro e he
    have hne : id ≠ e.deviceId := fun hid => hunnamed e he hid.symm
    cases e with
    | attached other => exact markFor_of_ne rfl hne
    | detached other => exact markFor_of_ne rfl hne
  intro hid
  have hopen := (halternating id).right.mpr hid
  rw [hmarks] at hopen
  cases hopen

theorem fresh_of_isNew {s : Broadcast} (h : Tracked s) {held : List UInt64}
    (halternating : Alternating DeviceEvent.mark s.log held) {id : UInt64}
    (hnew : s.isNew id = true) :
    s.registry.Fresh s.past held id ∧ id ∉ s.past.arrived := by
  rcases Bool.and_eq_true_iff.mp hnew with ⟨hregistered, hunnamed⟩
  have hunnamed : forall e, e ∈ s.log -> e.deviceId ≠ id := by
    simpa using hunnamed
  constructor
  · constructor
    · simpa using hregistered
    · intro hrestored
      exact hunnamed _ (h.restored_named id hrestored) rfl
    · exact not_mem_held halternating hunnamed
  · intro hcame
    exact hunnamed _ (h.arrived_named id hcame) rfl

theorem brings_of_permits {s : Broadcast} (h : Tracked s) {held : List UInt64}
    (halternating : Alternating DeviceEvent.mark s.log held)
    {operation : Operation} (hpermits : s.permits operation = true) :
    s.registry.Brings s.past held operation := by
  cases operation with
  | usbConnected device =>
      rcases Bool.or_eq_true_iff.mp hpermits with hcame | hnew
      · exact Or.inl (List.contains_iff_mem.mp hcame)
      · exact Or.inr (fresh_of_isNew h halternating hnew).left
  | networkConnected device => exact fresh_of_isNew h halternating hpermits
  | addDevice pairing device force opened =>
      exact fresh_of_isNew h halternating hpermits
  | usbDisconnected id => trivial
  | networkDisconnected id => trivial

theorem registry_permits {s : Broadcast} {operation : Operation}
    (hpermits : s.permits operation = true) :
    s.registry.permits operation = true := by
  cases operation with
  | usbConnected device => rfl
  | networkConnected device => exact (Bool.and_eq_true_iff.mp hpermits).left
  | addDevice pairing device force opened =>
      exact (Bool.and_eq_true_iff.mp hpermits).left
  | usbDisconnected id => rfl
  | networkDisconnected id => exact hpermits

theorem tracked_step {s t : Broadcast} {operation : Operation}
    (h : Tracked s) (hstep : step s operation = some t) :
    (t.Disciplined <-> s.FindsAnnounced operation) ∧
      (s.FindsAnnounced operation -> Tracked t) := by
  rcases Machine.of_enabled_if hstep with ⟨hpermits, hstep⟩
  cases hstep
  rcases h.reflected with ⟨held, halternating, hreflects⟩
  have hbrings := brings_of_permits h halternating hpermits
  have hkind := registry_permits hpermits
  have hfits :=
    Registry.fits_handle_iff hreflects h.coherent hbrings hkind
  refine ⟨(halternating.alternates_append_iff _).trans hfits, ?_⟩
  intro hfound
  constructor
  · exact Registry.coherent_handle h.coherent operation
  · exact ⟨_, halternating.append (hfits.mpr hfound),
      Registry.reflects_handle hreflects h.coherent hbrings hkind hfound⟩
  · intro id hid
    apply List.mem_append.mpr
    exact (Registry.mem_restored_pastAfter hid).imp_left (h.restored_named id)
  · intro id hid
    apply List.mem_append.mpr
    exact (Registry.mem_arrived_pastAfter hid).imp_left (h.arrived_named id)

/--
From an empty registry, the events of every id alternate exactly if no
operation announces the departure of a network device that a USB device hides
or that a failed forced addition has put back, and no USB device comes under an
id whose device is there or was dropped when its UDID came again.
-/
theorem disciplined_throughout_iff (operations : List Operation) :
    Machine.Throughout step Disciplined {} operations <->
      Machine.Guarded step FindsAnnounced {} operations := by
  apply Machine.throughout_iff_guarded (J := Tracked)
  · intro s hs id
    rcases hs.reflected with ⟨held, halternating, _⟩
    exact (halternating id).left
  · intro s operation t hs hstep hfound
    exact (tracked_step hs hstep).right hfound
  · intro s operation t hs hstep hnot hdisciplined
    exact hnot ((tracked_step hs hstep).left.mp hdisciplined)
  · exact Tracked.nil

/--
A forced addition for a device that is there over USB and over the network
announces the departure of the network device, which no client holds.
-/
theorem not_disciplined_hiddenReplaced :
    ¬ forall operations, Machine.Throughout step Disciplined {} operations := by
  intro h
  have hdisciplined := (h
    [.usbConnected { id := 1, udid := "00008101" },
      .networkConnected { id := 2, udid := "00008101" },
      .addDevice (.ok ()) { id := 3, udid := "00008101" } true (.ok ())]).last rfl
  have halternates := hdisciplined 2
  exact halternates.left rfl

end Broadcast

end Watcher
end Rusbmux
