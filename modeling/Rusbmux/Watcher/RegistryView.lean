import Rusbmux.Watcher.Registry

/-!
# The listing and the events of a change

What every registry operation does to the devices a listing shows, next to the
events that it broadcasts.  Replaying the events on the old listing gives the
new one for all operations but two: a USB device that arrives may drop others
without a word, and a forced addition that fails takes back what it announced.
-/

namespace Rusbmux
namespace Watcher

/-!
## Events
-/

namespace DeviceEvent

def deviceId : DeviceEvent -> UInt64
  | .attached id | .detached id => id

def apply (view : Finset UInt64) : DeviceEvent -> Finset UInt64
  | attached id => Insert.insert id view
  | detached id => view.erase id

def replay (view : Finset UInt64) (events : List DeviceEvent) :
    Finset UInt64 :=
  events.foldl apply view

@[simp] theorem replay_nil (view : Finset UInt64) : replay view [] = view := rfl

@[simp] theorem replay_cons (view : Finset UInt64) (event : DeviceEvent)
    (events : List DeviceEvent) :
    replay view (event :: events) = replay (apply view event) events := rfl

@[simp] theorem mem_apply_attached (view : Finset UInt64) (id other : UInt64) :
    other ∈ apply view (attached id) <-> other = id ∨ other ∈ view := by
  simp [apply]

@[simp] theorem mem_apply_detached (view : Finset UInt64) (id other : UInt64) :
    other ∈ apply view (detached id) <-> other ≠ id ∧ other ∈ view := by
  simp [apply]

end DeviceEvent

open DeviceEvent

/-!
## Members of the registry
-/

namespace Registry

def UsbHas (R : Registry) (udid : String) : Prop :=
  exists u, Device.usb u ∈ R ∧ u.udid = udid

structure Coherent (R : Registry) : Prop where
  id_unique : forall d e, d ∈ R -> e ∈ R -> d.id = e.id -> d = e
  usb_unique : forall u v, Device.usb u ∈ R -> Device.usb v ∈ R ->
    u.udid = v.udid -> u = v
  network_unique : forall m n, Device.network m ∈ R -> Device.network n ∈ R ->
    m.udid = n.udid -> m = n

theorem mem_remove {R : Registry} {id : UInt64} {d : Device} :
    d ∈ R.remove id <-> d ∈ R ∧ d.id ≠ id := by
  simp [remove]

theorem mem_insert {R : Registry} {dev d : Device} :
    d ∈ insert R dev <-> d = dev ∨ d ∈ R ∧ d.id ≠ dev.id := by
  simp [insert, mem_remove]

theorem isUsb_with_udid_iff {d : Device} {udid : String} :
    (d.isUsb && d.udid = udid) = true <->
      exists u, d = .usb u ∧ u.udid = udid := by
  rw [Bool.and_eq_true_iff, decide_eq_true_eq]
  cases d with
  | network n =>
      constructor
      · intro h
        cases h.left
      · intro h
        rcases h with ⟨u, hu, _⟩
        cases hu
  | usb u =>
      constructor
      · intro h
        exact ⟨u, rfl, h.right⟩
      · intro h
        rcases h with ⟨v, hv, hudid⟩
        cases hv
        exact ⟨rfl, hudid⟩

theorem hasUsbWithUdid_iff {R : Registry} {udid : String} :
    R.hasUsbWithUdid udid = true <-> R.UsbHas udid := by
  unfold hasUsbWithUdid UsbHas
  rw [List.any_eq_true]
  constructor
  · intro h
    rcases h with ⟨d, hd, hmatch⟩
    rcases isUsb_with_udid_iff.mp hmatch with ⟨u, rfl, hudid⟩
    exact ⟨u, hd, hudid⟩
  · intro h
    rcases h with ⟨u, hu, hudid⟩
    exact ⟨.usb u, hu, isUsb_with_udid_iff.mpr ⟨u, rfl, hudid⟩⟩

theorem findNetworkByUdid_eq_none_iff {R : Registry} {udid : String} :
    R.findNetworkByUdid udid = none <->
      forall n, Device.network n ∈ R -> n.udid ≠ udid := by
  unfold findNetworkByUdid
  rw [List.find?_eq_none]
  constructor
  · intro h n hn hudid
    exact h _ hn (Bool.and_eq_true_iff.mpr ⟨rfl, decide_eq_true hudid⟩)
  · intro h d hd hmatch
    cases d with
    | usb u => simp [Device.isUsb] at hmatch
    | network n =>
        exact h n hd (of_decide_eq_true (Bool.and_eq_true_iff.mp hmatch).right)

theorem findNetworkByUdid_eq_some {R : Registry} {udid : String} {d : Device}
    (h : R.findNetworkByUdid udid = some d) :
    exists n, d = .network n ∧ Device.network n ∈ R ∧ n.udid = udid := by
  have hmem := List.mem_of_find?_eq_some h
  have hmatch := List.find?_some h
  cases d with
  | usb u => simp [Device.isUsb] at hmatch
  | network n =>
      exact ⟨n, rfl, hmem,
        of_decide_eq_true (Bool.and_eq_true_iff.mp hmatch).right⟩

theorem hasNetworkWithUdid_eq_false_iff {R : Registry} {udid : String} :
    R.hasNetworkWithUdid udid = false <->
      forall n, Device.network n ∈ R -> n.udid ≠ udid := by
  rw [← findNetworkByUdid_eq_none_iff]
  unfold hasNetworkWithUdid findNetworkByUdid
  rw [List.find?_eq_none, List.any_eq_false]

theorem get_eq_some {R : Registry} {id : UInt64} {d : Device}
    (h : R.get id = some d) : d ∈ R ∧ d.id = id := by
  refine ⟨List.mem_of_find?_eq_some h, ?_⟩
  simpa using List.find?_some h

theorem get_eq_none {R : Registry} {id : UInt64}
    (hget : R.get id = none) :
    forall d, d ∈ R -> d.id ≠ id := by
  intro d hd hid
  exact List.find?_eq_none.mp hget d hd (decide_eq_true hid)

theorem mem_visible {R : Registry} {id : UInt64} :
    id ∈ R.visible <->
      (exists u, Device.usb u ∈ R ∧ u.id = id) ∨
        exists n, Device.network n ∈ R ∧ n.id = id ∧ ¬ R.UsbHas n.udid := by
  unfold visible
  simp only [List.mem_toFinset, List.mem_map, List.mem_filter]
  constructor
  · intro h
    rcases h with ⟨d, ⟨hd, hshown⟩, rfl⟩
    cases d with
    | usb u => exact Or.inl ⟨u, hd, rfl⟩
    | network n =>
        refine Or.inr ⟨n, hd, rfl, ?_⟩
        rw [← hasUsbWithUdid_iff]
        simpa [isShadowed] using hshown
  · intro h
    rcases h with ⟨u, hu, rfl⟩ | ⟨n, hn, rfl, hshown⟩
    · exact ⟨.usb u, ⟨hu, rfl⟩, rfl⟩
    · refine ⟨.network n, ⟨hn, ?_⟩, rfl⟩
      rw [← hasUsbWithUdid_iff] at hshown
      simpa [isShadowed] using hshown

theorem visible_congr {R S : Registry} (h : forall d, d ∈ R <-> d ∈ S) :
    R.visible = S.visible := by
  ext id
  rw [mem_visible, mem_visible]
  simp only [UsbHas, h]

/-!
## Coherence
-/

namespace Coherent

variable {R : Registry}

theorem nil : Coherent [] := by
  constructor <;> simp

theorem of_subset {S : Registry} (h : Coherent R)
    (hsub : forall d, d ∈ S -> d ∈ R) : Coherent S where
  id_unique d e hd he := h.id_unique d e (hsub d hd) (hsub e he)
  usb_unique u v hu hv := h.usb_unique u v (hsub _ hu) (hsub _ hv)
  network_unique m n hm hn := h.network_unique m n (hsub _ hm) (hsub _ hn)

theorem remove (h : Coherent R) (id : UInt64) : Coherent (R.remove id) :=
  h.of_subset fun _ hd => (mem_remove.mp hd).left

theorem id_unique_insert (h : Coherent R) {new d e : Device}
    (hd : d ∈ insert R new) (he : e ∈ insert R new) (hid : d.id = e.id) :
    d = e := by
  rcases mem_insert.mp hd with rfl | ⟨hold, hdid⟩
  · rcases mem_insert.mp he with rfl | ⟨_, heid⟩
    · rfl
    · exact absurd hid.symm heid
  · rcases mem_insert.mp he with rfl | ⟨heold, _⟩
    · exact absurd hid hdid
    · exact h.id_unique d e hold heold hid

theorem insert_usb (h : Coherent R) {u : UsbDevice}
    (hnew : forall v, Device.usb v ∈ R -> v.udid ≠ u.udid) :
    Coherent (insert R (.usb u)) where
  id_unique _ _ hd he := h.id_unique_insert hd he
  usb_unique v w hv hw hudid := by
    rcases mem_insert.mp hv with hv | ⟨hv, _⟩
    · cases hv
      rcases mem_insert.mp hw with hw | ⟨hw, _⟩
      · cases hw
        rfl
      · exact absurd hudid.symm (hnew w hw)
    · rcases mem_insert.mp hw with hw | ⟨hw, _⟩
      · cases hw
        exact absurd hudid (hnew v hv)
      · exact h.usb_unique v w hv hw hudid
  network_unique m n hm hn hudid := by
    rcases mem_insert.mp hm with hm | ⟨hm, _⟩
    · cases hm
    · rcases mem_insert.mp hn with hn | ⟨hn, _⟩
      · cases hn
      · exact h.network_unique m n hm hn hudid

theorem insert_network (h : Coherent R) {dev : NetworkDevice}
    (hnew : forall n, Device.network n ∈ R -> n.udid ≠ dev.udid) :
    Coherent (insert R (.network dev)) where
  id_unique _ _ hd he := h.id_unique_insert hd he
  usb_unique u v hu hv hudid := by
    rcases mem_insert.mp hu with hu | ⟨hu, _⟩
    · cases hu
    · rcases mem_insert.mp hv with hv | ⟨hv, _⟩
      · cases hv
      · exact h.usb_unique u v hu hv hudid
  network_unique m n hm hn hudid := by
    rcases mem_insert.mp hm with hm | ⟨hm, _⟩
    · cases hm
      rcases mem_insert.mp hn with hn | ⟨hn, _⟩
      · cases hn
        rfl
      · exact absurd hudid.symm (hnew n hn)
    · rcases mem_insert.mp hn with hn | ⟨hn, _⟩
      · cases hn
        exact absurd hudid (hnew m hm)
      · exact h.network_unique m n hm hn hudid

theorem network_mem_visible (h : Coherent R) {n : NetworkDevice}
    (hn : Device.network n ∈ R) :
    n.id ∈ R.visible <-> ¬ R.UsbHas n.udid := by
  rw [mem_visible]
  constructor
  · intro hlisted
    rcases hlisted with ⟨u, hu, hid⟩ | ⟨m, hm, hid, hshown⟩
    · cases h.id_unique _ _ hu hn hid
    · cases h.id_unique _ _ hm hn hid
      exact hshown
  · intro hshown
    exact Or.inr ⟨n, hn, rfl, hshown⟩

end Coherent

/-!
## The listing after a change
-/

section Change

variable {R : Registry}

theorem usbHas_remove_network (h : Coherent R) {n : NetworkDevice}
    (hn : Device.network n ∈ R) (udid : String) :
    (R.remove n.id).UsbHas udid <-> R.UsbHas udid := by
  unfold UsbHas
  constructor
  · intro husb
    rcases husb with ⟨u, hu, hudid⟩
    exact ⟨u, (mem_remove.mp hu).left, hudid⟩
  · intro husb
    rcases husb with ⟨u, hu, hudid⟩
    refine ⟨u, mem_remove.mpr ⟨hu, ?_⟩, hudid⟩
    intro hid
    cases h.id_unique _ _ hu hn hid

theorem usbHas_insert_network {dev : NetworkDevice}
    (hfresh : forall d, d ∈ R -> d.id ≠ dev.id) (udid : String) :
    (insert R (.network dev)).UsbHas udid <-> R.UsbHas udid := by
  unfold UsbHas
  constructor
  · intro husb
    rcases husb with ⟨u, hu, hudid⟩
    rcases mem_insert.mp hu with hu | ⟨hu, _⟩
    · cases hu
    · exact ⟨u, hu, hudid⟩
  · intro husb
    rcases husb with ⟨u, hu, hudid⟩
    exact ⟨u, mem_insert.mpr (Or.inr ⟨hu, hfresh _ hu⟩), hudid⟩

theorem visible_remove_network (h : Coherent R) {n : NetworkDevice}
    (hn : Device.network n ∈ R) :
    (R.remove n.id).visible = R.visible.erase n.id := by
  ext id
  rw [Finset.mem_erase, mem_visible, mem_visible]
  simp only [usbHas_remove_network h hn, mem_remove]
  constructor
  · intro hlisted
    rcases hlisted with ⟨u, ⟨hu, hne⟩, rfl⟩ | ⟨m, ⟨hm, hne⟩, rfl, hshown⟩
    · exact ⟨hne, Or.inl ⟨u, hu, rfl⟩⟩
    · exact ⟨hne, Or.inr ⟨m, hm, rfl, hshown⟩⟩
  · intro hlisted
    rcases hlisted with ⟨hne, ⟨u, hu, rfl⟩ | ⟨m, hm, rfl, hshown⟩⟩
    · exact Or.inl ⟨u, ⟨hu, hne⟩, rfl⟩
    · exact Or.inr ⟨m, ⟨hm, hne⟩, rfl, hshown⟩

theorem visible_insert_network {dev : NetworkDevice}
    (hfresh : forall d, d ∈ R -> d.id ≠ dev.id) (id : UInt64) :
    id ∈ (insert R (.network dev)).visible <->
      id = dev.id ∧ ¬ R.UsbHas dev.udid ∨ id ∈ R.visible := by
  rw [mem_visible, mem_visible]
  simp only [usbHas_insert_network hfresh, mem_insert]
  constructor
  · intro hlisted
    rcases hlisted with ⟨u, hu | ⟨hu, _⟩, rfl⟩ |
      ⟨n, hn | ⟨hn, _⟩, rfl, hshown⟩
    · cases hu
    · exact Or.inr (Or.inl ⟨u, hu, rfl⟩)
    · cases hn
      exact Or.inl ⟨rfl, hshown⟩
    · exact Or.inr (Or.inr ⟨n, hn, rfl, hshown⟩)
  · intro hlisted
    rcases hlisted with ⟨rfl, hshown⟩ | ⟨u, hu, rfl⟩ | ⟨n, hn, rfl, hshown⟩
    · exact Or.inr ⟨dev, Or.inl rfl, rfl, hshown⟩
    · exact Or.inl ⟨u, Or.inr ⟨hu, hfresh _ hu⟩, rfl⟩
    · exact Or.inr ⟨n, Or.inr ⟨hn, hfresh _ hn⟩, rfl, hshown⟩

theorem mem_replay_insert_network {dev : NetworkDevice}
    (hfresh : forall d, d ∈ R -> d.id ≠ dev.id) (view : Finset UInt64)
    (id : UInt64) :
    id ∈ DeviceEvent.replay view
        (if (insert R (.network dev)).hasUsbWithUdid dev.udid then []
          else [.attached dev.id]) <->
      id = dev.id ∧ ¬ R.UsbHas dev.udid ∨ id ∈ view := by
  have husb : (insert R (.network dev)).hasUsbWithUdid dev.udid = true <->
      R.UsbHas dev.udid := by
    rw [hasUsbWithUdid_iff, usbHas_insert_network hfresh]
  by_cases hhidden : R.UsbHas dev.udid
  · rw [if_pos (husb.mpr hhidden)]
    simp [hhidden]
  · rw [if_neg (fun h => hhidden (husb.mp h))]
    simp [hhidden]

theorem replay_insert_network {dev : NetworkDevice}
    (hfresh : forall d, d ∈ R -> d.id ≠ dev.id) :
    DeviceEvent.replay R.visible
        (if (insert R (.network dev)).hasUsbWithUdid dev.udid then []
          else [.attached dev.id]) =
      (insert R (.network dev)).visible := by
  ext id
  rw [visible_insert_network hfresh, mem_replay_insert_network hfresh]

theorem mem_replay_remove_network (h : Coherent R) {n : NetworkDevice}
    (hn : Device.network n ∈ R) (view : Finset UInt64) (id : UInt64) :
    id ∈ DeviceEvent.replay view
        (if (R.remove n.id).hasUsbWithUdid n.udid then []
          else [.detached n.id]) <->
      id ∈ view ∧ (id ≠ n.id ∨ R.UsbHas n.udid) := by
  have husb : (R.remove n.id).hasUsbWithUdid n.udid = true <->
      R.UsbHas n.udid := by
    rw [hasUsbWithUdid_iff, usbHas_remove_network h hn]
  by_cases hhidden : R.UsbHas n.udid
  · rw [if_pos (husb.mpr hhidden)]
    simp [hhidden]
  · rw [if_neg (fun h => hhidden (husb.mp h))]
    simp [hhidden, and_comm]

theorem replay_remove_network (h : Coherent R) {n : NetworkDevice}
    (hn : Device.network n ∈ R) :
    DeviceEvent.replay R.visible
        (if (R.remove n.id).hasUsbWithUdid n.udid then []
          else [.detached n.id]) =
      (R.remove n.id).visible := by
  ext id
  rw [mem_replay_remove_network h hn, visible_remove_network h hn,
    Finset.mem_erase, and_comm]
  have hlisted := h.network_mem_visible hn
  constructor
  · intro hview
    refine ⟨?_, hview.right⟩
    intro hid
    subst hid
    exact hlisted.mp hview.right (hview.left.resolve_left fun hne => hne rfl)
  · intro hview
    exact ⟨Or.inl hview.left, hview.right⟩

end Change

/-!
## A USB device goes away
-/

section UsbDisconnected

variable {R : Registry}

theorem usbHas_remove_usb (h : Coherent R) {u : UsbDevice}
    (hu : Device.usb u ∈ R) (udid : String) :
    (R.remove u.id).UsbHas udid <-> R.UsbHas udid ∧ udid ≠ u.udid := by
  unfold UsbHas
  constructor
  · intro husb
    rcases husb with ⟨v, hv, rfl⟩
    rcases mem_remove.mp hv with ⟨hv, hne⟩
    refine ⟨⟨v, hv, rfl⟩, ?_⟩
    intro hudid
    cases h.usb_unique v u hv hu hudid
    exact hne rfl
  · intro husb
    rcases husb with ⟨⟨v, hv, rfl⟩, hne⟩
    refine ⟨v, mem_remove.mpr ⟨hv, ?_⟩, rfl⟩
    intro hid
    cases h.id_unique _ _ hv hu hid
    exact hne rfl

theorem visible_remove_usb (h : Coherent R) {u : UsbDevice}
    (hu : Device.usb u ∈ R) (id : UInt64) :
    id ∈ (R.remove u.id).visible <->
      id ≠ u.id ∧ (id ∈ R.visible ∨
        exists n, Device.network n ∈ R ∧ n.id = id ∧ n.udid = u.udid) := by
  rw [mem_visible, mem_visible]
  simp only [usbHas_remove_usb h hu, mem_remove]
  constructor
  · intro hlisted
    rcases hlisted with ⟨v, ⟨hv, hne⟩, rfl⟩ | ⟨n, ⟨hn, hne⟩, rfl, hshown⟩
    · exact ⟨hne, Or.inl (Or.inl ⟨v, hv, rfl⟩)⟩
    · refine ⟨hne, ?_⟩
      by_cases hudid : n.udid = u.udid
      · exact Or.inr ⟨n, hn, rfl, hudid⟩
      · refine Or.inl (Or.inr ⟨n, hn, rfl, ?_⟩)
        exact fun husb => hshown ⟨husb, hudid⟩
  · intro hlisted
    rcases hlisted with ⟨hne, (⟨v, hv, rfl⟩ | ⟨n, hn, rfl, hshown⟩) |
      ⟨n, hn, rfl, hudid⟩⟩
    · exact Or.inl ⟨v, ⟨hv, hne⟩, rfl⟩
    · exact Or.inr ⟨n, ⟨hn, hne⟩, rfl, fun husb => hshown husb.left⟩
    · exact Or.inr ⟨n, ⟨hn, hne⟩, rfl, fun husb => husb.right hudid⟩

theorem findNetworkIdByUdid_remove_usb (h : Coherent R) {u : UsbDevice}
    (hu : Device.usb u ∈ R) :
    ((R.remove u.id).findNetworkIdByUdid u.udid = none ∧
        forall n, Device.network n ∈ R -> n.udid ≠ u.udid) ∨
      exists n, (R.remove u.id).findNetworkIdByUdid u.udid = some n.id ∧
        Device.network n ∈ R ∧ n.udid = u.udid := by
  cases hfind : (R.remove u.id).findNetworkByUdid u.udid with
  | none =>
      refine Or.inl ⟨by rw [findNetworkIdByUdid, hfind]; rfl, ?_⟩
      intro n hn hudid
      refine findNetworkByUdid_eq_none_iff.mp hfind n
        (mem_remove.mpr ⟨hn, ?_⟩) hudid
      intro hid
      cases h.id_unique _ _ hn hu hid
  | some d =>
      rcases findNetworkByUdid_eq_some hfind with ⟨n, rfl, hn, hudid⟩
      exact Or.inr ⟨n, by rw [findNetworkIdByUdid, hfind]; rfl,
        (mem_remove.mp hn).left, hudid⟩

theorem mem_replay_remove_usb (h : Coherent R) {u : UsbDevice}
    (hu : Device.usb u ∈ R) (view : Finset UInt64) (id : UInt64) :
    id ∈ DeviceEvent.replay view
        (match (R.remove u.id).findNetworkIdByUdid u.udid with
          | some ndevId => [.attached ndevId, .detached u.id]
          | none => [.detached u.id]) <->
      id ≠ u.id ∧ (id ∈ view ∨
        exists n, Device.network n ∈ R ∧ n.id = id ∧ n.udid = u.udid) := by
  rcases findNetworkIdByUdid_remove_usb h hu with
    ⟨hfind, hnone⟩ | ⟨n, hfind, hn, hudid⟩
  · simp only [hfind, replay_cons, replay_nil, mem_apply_detached]
    constructor
    · intro hview
      exact ⟨hview.left, Or.inl hview.right⟩
    · intro hlisted
      rcases hlisted with ⟨hne, hlisted | ⟨m, hm, _, hudid⟩⟩
      · exact ⟨hne, hlisted⟩
      · exact absurd hudid (hnone m hm)
  · simp only [hfind, replay_cons, replay_nil, mem_apply_detached,
      mem_apply_attached]
    constructor
    · intro hview
      rcases hview with ⟨hne, rfl | hlisted⟩
      · exact ⟨hne, Or.inr ⟨n, hn, rfl, hudid⟩⟩
      · exact ⟨hne, Or.inl hlisted⟩
    · intro hlisted
      rcases hlisted with ⟨hne, hlisted | ⟨m, hm, rfl, hmudid⟩⟩
      · exact ⟨hne, Or.inr hlisted⟩
      · cases h.network_unique m n hm hn (hmudid.trans hudid.symm)
        exact ⟨hne, Or.inl rfl⟩

theorem replay_usbDisconnected (h : Coherent R) (id : UInt64) :
    DeviceEvent.replay R.visible (R.usbDisconnected id).snd =
      (R.usbDisconnected id).fst.visible := by
  unfold usbDisconnected removeDevice
  cases hget : R.get id with
  | none => rfl
  | some d =>
      rcases get_eq_some hget with ⟨hd, rfl⟩
      cases d with
      | network n => exact replay_remove_network h hd
      | usb u =>
          ext other
          exact (mem_replay_remove_usb h hd R.visible other).trans
            (visible_remove_usb h hd other).symm

theorem coherent_usbDisconnected (h : Coherent R) (id : UInt64) :
    Coherent (R.usbDisconnected id).fst := by
  unfold usbDisconnected removeDevice
  cases R.get id with
  | none => exact h
  | some d => exact h.remove id

end UsbDisconnected

/-!
## Network devices come and go
-/

section Network

variable {R : Registry}

theorem replay_networkConnected {dev : NetworkDevice}
    (hfresh : forall d, d ∈ R -> d.id ≠ dev.id) :
    DeviceEvent.replay R.visible (R.networkConnected dev).snd =
      (R.networkConnected dev).fst.visible := by
  unfold networkConnected
  cases R.hasNetworkWithUdid dev.udid with
  | true => rfl
  | false => exact replay_insert_network hfresh

theorem coherent_networkConnected (h : Coherent R) (dev : NetworkDevice) :
    Coherent (R.networkConnected dev).fst := by
  unfold networkConnected
  cases hhas : R.hasNetworkWithUdid dev.udid with
  | true => exact h
  | false =>
      exact h.insert_network (hasNetworkWithUdid_eq_false_iff.mp hhas)

theorem replay_networkDisconnected (h : Coherent R) {id : UInt64}
    (hkind : forall u, Device.usb u ∈ R -> u.id ≠ id) :
    DeviceEvent.replay R.visible (R.networkDisconnected id).snd =
      (R.networkDisconnected id).fst.visible := by
  unfold networkDisconnected
  cases hget : R.get id with
  | none => rfl
  | some d =>
      rcases get_eq_some hget with ⟨hd, rfl⟩
      cases d with
      | network n => exact replay_remove_network h hd
      | usb u => exact absurd rfl (hkind u hd)

theorem coherent_networkDisconnected (h : Coherent R) (id : UInt64) :
    Coherent (R.networkDisconnected id).fst := by
  unfold networkDisconnected
  cases R.get id with
  | none => exact h
  | some d => exact h.remove id

theorem mem_reinsert (h : Coherent R) {old : Device} (hold : old ∈ R)
    (d : Device) : d ∈ insert (R.remove old.id) old <-> d ∈ R := by
  rw [mem_insert, mem_remove]
  constructor
  · intro hd
    rcases hd with rfl | ⟨⟨hd, _⟩, _⟩
    · exact hold
    · exact hd
  · intro hd
    by_cases hid : d.id = old.id
    · exact Or.inl (h.id_unique d old hd hold hid)
    · exact Or.inr ⟨⟨hd, hid⟩, hid⟩

theorem replay_replace_network (h : Coherent R) {n dev : NetworkDevice}
    (hn : Device.network n ∈ R)
    (hfresh : forall d, d ∈ R -> d.id ≠ dev.id) :
    DeviceEvent.replay R.visible
        (.detached n.id ::
          if (insert (R.remove n.id) (.network dev)).hasUsbWithUdid dev.udid
          then [] else [.attached dev.id]) =
      (insert (R.remove n.id) (.network dev)).visible := by
  rw [replay_cons]
  show replay (R.visible.erase n.id) _ = _
  rw [← visible_remove_network h hn]
  exact replay_insert_network fun d hd => hfresh d (mem_remove.mp hd).left

/--
A forced addition that cannot open the new device announces that the old one is
gone and then keeps it.
-/
theorem replay_addPaired_iff (h : Coherent R) {dev : NetworkDevice}
    (hfresh : forall d, d ∈ R -> d.id ≠ dev.id) (force : Bool)
    (opened : Except RusbmuxError Unit) :
    DeviceEvent.replay R.visible (R.addPaired dev force opened).fst.snd =
        (R.addPaired dev force opened).fst.fst.visible <->
      (force = true -> (exists err, opened = .error err) ->
        forall n, Device.network n ∈ R -> n.udid = dev.udid ->
          R.UsbHas dev.udid) := by
  unfold addPaired
  cases hfind : R.findNetworkByUdid dev.udid with
  | none =>
      have hnone := findNetworkByUdid_eq_none_iff.mp hfind
      refine iff_of_true ?_ fun _ _ n hn hudid => absurd hudid (hnone n hn)
      cases opened with
      | error err => rfl
      | ok _ => exact replay_insert_network hfresh
  | some old =>
      rcases findNetworkByUdid_eq_some hfind with ⟨n, rfl, hn, hudid⟩
      cases force with
      | false => exact iff_of_true rfl fun hforce => Bool.noConfusion hforce
      | true =>
          cases opened with
          | ok _ =>
              apply iff_of_true (replay_replace_network h hn hfresh)
              intro _ hfailed
              rcases hfailed with ⟨err, herr⟩
              cases herr
          | error err =>
              have hsame : (insert (R.remove n.id) (.network n)).visible =
                  R.visible := visible_congr (mem_reinsert h hn)
              show R.visible.erase n.id =
                (insert (R.remove n.id) (.network n)).visible <-> _
              rw [hsame, Finset.erase_eq_self, h.network_mem_visible hn,
                not_not, hudid]
              constructor
              · intro hhidden _ _ _ _ _
                exact hhidden
              · intro hannounced
                exact hannounced rfl ⟨err, rfl⟩ n hn hudid

theorem coherent_addPaired (h : Coherent R) (dev : NetworkDevice)
    (force : Bool) (opened : Except RusbmuxError Unit) :
    Coherent (R.addPaired dev force opened).fst.fst := by
  unfold addPaired
  cases hfind : R.findNetworkByUdid dev.udid with
  | none =>
      cases opened with
      | error err => exact h
      | ok _ =>
          exact h.insert_network (findNetworkByUdid_eq_none_iff.mp hfind)
  | some old =>
      rcases findNetworkByUdid_eq_some hfind with ⟨n, rfl, hn, hudid⟩
      cases force with
      | false => exact h
      | true =>
          cases opened with
          | error err =>
              exact h.of_subset fun d => (mem_reinsert h hn d).mp
          | ok _ =>
              apply (h.remove n.id).insert_network
              intro m hm hmudid
              rcases mem_remove.mp hm with ⟨hm, hne⟩
              cases h.network_unique m n hm hn (hmudid.trans hudid.symm)
              exact hne rfl

end Network

/-!
## A USB device arrives
-/

section UsbConnected

variable {R : Registry}

theorem mem_usbConnected {device : UsbDevice} {d : Device} :
    d ∈ (R.usbConnected device).fst <->
      d = .usb device ∨
        (d ∈ R ∧ (d.isUsb = false ∨ d.udid ≠ device.udid)) ∧
          d.id ≠ device.id := by
  unfold usbConnected
  rw [mem_insert]
  simp [Device.id]

theorem coherent_usbConnected (h : Coherent R) (device : UsbDevice) :
    Coherent (R.usbConnected device).fst := by
  apply Coherent.insert_usb (h.of_subset fun d hd => (List.mem_filter.mp hd).left)
  intro v hv hudid
  have hkept := (List.mem_filter.mp hv).right
  simp [Device.isUsb, Device.udid, hudid] at hkept

/--
The arrival is announced: no other USB device with its UDID is registered, and
the device registered under its id, if it is another one, hides nothing.
-/
structure UsbAnnounced (R : Registry) (device : UsbDevice) : Prop where
  same_id : forall u, Device.usb u ∈ R -> u.udid = device.udid ->
    u.id = device.id
  hides_nothing : forall u n, Device.usb u ∈ R -> u.id = device.id ->
    Device.network n ∈ R -> n.udid = u.udid -> u.udid = device.udid

theorem usbHas_usbConnected {device : UsbDevice} {udid : String} :
    (R.usbConnected device).fst.UsbHas udid <->
      udid = device.udid ∨
        exists u, Device.usb u ∈ R ∧ u.udid = udid ∧ udid ≠ device.udid ∧
          u.id ≠ device.id := by
  unfold UsbHas
  constructor
  · intro husb
    rcases husb with ⟨u, hu, rfl⟩
    rcases mem_usbConnected.mp hu with hu | ⟨⟨hu, hkept⟩, hne⟩
    · cases hu
      exact Or.inl rfl
    · rcases hkept with husb | hudid
      · cases husb
      · exact Or.inr ⟨u, hu, rfl, hudid, hne⟩
  · intro husb
    rcases husb with rfl | ⟨u, hu, rfl, hudid, hne⟩
    · exact ⟨device, mem_usbConnected.mpr (Or.inl rfl), rfl⟩
    · exact ⟨u, mem_usbConnected.mpr (Or.inr ⟨⟨hu, Or.inr hudid⟩, hne⟩), rfl⟩

theorem mem_replay_usbConnected (h : Coherent R) (view : Finset UInt64)
    (device : UsbDevice) (id : UInt64) :
    id ∈ DeviceEvent.replay view (R.usbConnected device).snd <->
      id = device.id ∨ id ∈ view ∧
        forall n, Device.network n ∈ R -> n.udid = device.udid ->
          id ≠ n.id := by
  unfold usbConnected findNetworkIdByUdid
  cases hfind : R.findNetworkByUdid device.udid with
  | none =>
      have hnone := findNetworkByUdid_eq_none_iff.mp hfind
      simp only [Option.map_none, List.nil_append, replay_cons, replay_nil,
        mem_apply_attached]
      constructor
      · intro hview
        rcases hview with rfl | hlisted
        · exact Or.inl rfl
        · exact Or.inr ⟨hlisted, fun n hn hudid => absurd hudid (hnone n hn)⟩
      · intro hview
        exact hview.imp_right And.left
  | some d =>
      rcases findNetworkByUdid_eq_some hfind with ⟨n, rfl, hn, hudid⟩
      simp only [Option.map_some, List.singleton_append, replay_cons, replay_nil,
        mem_apply_attached, mem_apply_detached]
      constructor
      · intro hview
        rcases hview with rfl | ⟨hne, hlisted⟩
        · exact Or.inl rfl
        · refine Or.inr ⟨hlisted, ?_⟩
          intro m hm hmudid
          cases h.network_unique m n hm hn (hmudid.trans hudid.symm)
          exact hne
      · intro hview
        rcases hview with rfl | ⟨hlisted, hne⟩
        · exact Or.inl rfl
        · exact Or.inr ⟨hne n hn hudid, hlisted⟩

theorem UsbAnnounced.of_replay (h : Coherent R) {device : UsbDevice}
    (heq : DeviceEvent.replay R.visible (R.usbConnected device).snd =
      (R.usbConnected device).fst.visible) : UsbAnnounced R device where
  same_id u hu hudid := by
    by_contra hne
    have hview : u.id ∈
        DeviceEvent.replay R.visible (R.usbConnected device).snd := by
      refine (mem_replay_usbConnected h _ device u.id).mpr (Or.inr ⟨?_, ?_⟩)
      · exact mem_visible.mpr (Or.inl ⟨u, hu, rfl⟩)
      · intro n hn _ hid
        cases h.id_unique _ _ hu hn hid
    rw [heq] at hview
    rcases mem_visible.mp hview with ⟨v, hv, hid⟩ | ⟨n, hn, hid, _⟩
    · rcases mem_usbConnected.mp hv with hv | ⟨⟨hv, hkept⟩, _⟩
      · cases hv
        exact hne hid.symm
      · cases h.id_unique _ _ hv hu hid
        rcases hkept with husb | hother
        · cases husb
        · exact hother hudid
    · rcases mem_usbConnected.mp hn with hn | ⟨⟨hn, _⟩, _⟩
      · cases hn
      · cases h.id_unique _ _ hn hu hid
  hides_nothing u n hu hid hn hudid := by
    by_contra hother
    have hne : n.id ≠ device.id := by
      intro hnid
      cases h.id_unique _ _ hn hu (hnid.trans hid.symm)
    have hlisted : n.id ∈ (R.usbConnected device).fst.visible := by
      refine mem_visible.mpr (Or.inr ⟨n, ?_, rfl, ?_⟩)
      · exact mem_usbConnected.mpr (Or.inr ⟨⟨hn, Or.inl rfl⟩, hne⟩)
      · intro husb
        rcases usbHas_usbConnected.mp husb with hsame | ⟨v, hv, hvudid, _, hvid⟩
        · exact hother (hudid.symm.trans hsame)
        · cases h.usb_unique v u hv hu (hvudid.trans hudid)
          exact hvid hid
    rw [← heq] at hlisted
    rcases (mem_replay_usbConnected h _ device n.id).mp hlisted with
      hnid | ⟨hview, _⟩
    · exact hne hnid
    · exact (h.network_mem_visible hn).mp hview ⟨u, hu, hudid.symm⟩

theorem UsbAnnounced.replay_eq (h : Coherent R) {device : UsbDevice}
    (hannounced : UsbAnnounced R device) :
    DeviceEvent.replay R.visible (R.usbConnected device).snd =
      (R.usbConnected device).fst.visible := by
  ext id
  rw [mem_replay_usbConnected h]
  constructor
  · intro hview
    by_cases hid : id = device.id
    · exact mem_visible.mpr
        (Or.inl ⟨device, mem_usbConnected.mpr (Or.inl rfl), hid.symm⟩)
    · rcases hview with hsame | ⟨hlisted, hnetwork⟩
      · exact absurd hsame hid
      · rcases mem_visible.mp hlisted with ⟨u, hu, rfl⟩ | ⟨n, hn, rfl, hshown⟩
        · have hudid : u.udid ≠ device.udid :=
            fun hudid => hid (hannounced.same_id u hu hudid)
          exact mem_visible.mpr (Or.inl
            ⟨u, mem_usbConnected.mpr (Or.inr ⟨⟨hu, Or.inr hudid⟩, hid⟩), rfl⟩)
        · refine mem_visible.mpr (Or.inr
            ⟨n, mem_usbConnected.mpr (Or.inr ⟨⟨hn, Or.inl rfl⟩, hid⟩), rfl, ?_⟩)
          intro husb
          rcases usbHas_usbConnected.mp husb with hudid | ⟨u, hu, hudid, _, _⟩
          · exact hnetwork n hn hudid rfl
          · exact hshown ⟨u, hu, hudid⟩
  · intro hlisted
    rcases mem_visible.mp hlisted with ⟨v, hv, rfl⟩ | ⟨n, hn, rfl, hshown⟩
    · rcases mem_usbConnected.mp hv with hv | ⟨⟨hv, _⟩, _⟩
      · cases hv
        exact Or.inl rfl
      · refine Or.inr ⟨mem_visible.mpr (Or.inl ⟨v, hv, rfl⟩), ?_⟩
        intro n hn _ hid
        cases h.id_unique _ _ hv hn hid
    · rcases mem_usbConnected.mp hn with hn | ⟨⟨hn, _⟩, _⟩
      · cases hn
      · have hudid : n.udid ≠ device.udid :=
          fun hudid => hshown (usbHas_usbConnected.mpr (Or.inl hudid))
        refine Or.inr ⟨(h.network_mem_visible hn).mpr ?_, ?_⟩
        · intro husb
          rcases husb with ⟨u, hu, huudid⟩
          apply hshown
          refine usbHas_usbConnected.mpr (Or.inr ⟨u, hu, huudid, hudid, ?_⟩)
          intro hid
          exact hudid (huudid.symm.trans
            (hannounced.hides_nothing u n hu hid hn huudid.symm))
        · intro m hm hmudid hid
          cases h.id_unique _ _ hn hm hid
          exact hudid hmudid

end UsbConnected

end Registry

end Watcher
end Rusbmux
