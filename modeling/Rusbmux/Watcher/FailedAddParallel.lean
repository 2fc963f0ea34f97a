import Rusbmux.Watcher.FailedAdd

/-!
# A wait, with and without the call

The scene in which a forced addition waits, next to the scene in which it was
never made: the old network device is missing from it, another one of its UDID
may have taken its place, and clients may hold others of its UDID otherwise.
Every event keeps the two in this relation until the old device leaves.
-/

namespace Rusbmux
namespace Watcher

open DeviceEvent

/-!
## Views that differ
-/

structure Differ (out : UInt64) (strays called idle : Finset UInt64) :
    Prop where
  unheld : out ∉ called
  apart : out ∉ strays
  stray : forall id, id ≠ out ->
    (id ∈ strays <-> ¬ (id ∈ called <-> id ∈ idle))

theorem mem_apply_of_ne (event : DeviceEvent) {id : UInt64}
    (hne : event.deviceId ≠ id) {view : Finset UInt64} :
    id ∈ apply view event <-> id ∈ view := by
  cases event with
  | attached other =>
      rw [mem_apply_attached, or_iff_right (fun hid => hne hid.symm)]
  | detached other =>
      rw [mem_apply_detached, and_iff_right (fun hid => hne hid.symm)]

namespace Differ

variable {out id : UInt64} {strays called idle : Finset UInt64}

theorem start (out : UInt64) (view : Finset UInt64) :
    Differ out ∅ (view.erase out) view where
  unheld := Finset.notMem_erase out view
  apart := Finset.notMem_empty out
  stray id hne := by
    simp [hne]

theorem both (h : Differ out strays called idle) (event : DeviceEvent)
    (hne : event.deviceId ≠ out) :
    Differ out (strays.erase event.deviceId) (apply called event)
      (apply idle event) := by
  have hout : out ≠ event.deviceId := hne.symm
  constructor
  · cases event <;> simp [h.unheld, apply, deviceId] at hout ⊢
    exact hout
  · simp [h.apart]
  · intro other hother
    have hstray := h.stray other hother
    by_cases hsame : other = event.deviceId
    · subst hsame
      cases event <;> simp [apply, deviceId]
    · rw [Finset.mem_erase, and_iff_right hsame, hstray]
      cases event with
      | attached id =>
          have hid : other ≠ id := hsame
          simp [hid]
      | detached id =>
          have hid : other ≠ id := hsame
          simp [hid]

theorem idle_only (h : Differ out strays called idle) (event : DeviceEvent)
    (hevent : event.deviceId = out) :
    Differ out strays called (apply idle event) where
  unheld := h.unheld
  apart := h.apart
  stray other hother := by
    rw [h.stray other hother]
    cases event with
    | attached id =>
        have hid : other ≠ id := fun hsame => hother (hsame.trans hevent)
        simp [hid]
    | detached id =>
        have hid : other ≠ id := fun hsame => hother (hsame.trans hevent)
        simp [hid]

theorem called_attached (h : Differ out strays called idle) (hne : id ≠ out) :
    Differ out (if id ∈ idle then strays.erase id else insert id strays)
      (apply called (.attached id)) idle := by
  constructor
  · rw [mem_apply_attached, not_or]
    exact ⟨hne.symm, h.unheld⟩
  · split <;> simp [h.apart, hne.symm]
  · intro other hother
    have hstray := h.stray other hother
    by_cases hsame : other = id
    · subst hsame
      by_cases hidle : other ∈ idle <;> simp [hidle]
    · rw [mem_apply_attached, or_iff_right hsame, ← hstray]
      split <;> simp [hsame]

theorem called_detached (h : Differ out strays called idle) (hne : id ≠ out) :
    Differ out (if id ∈ idle then insert id strays else strays.erase id)
      (apply called (.detached id)) idle := by
  constructor
  · rw [mem_apply_detached]
    exact fun hheld => h.unheld hheld.right
  · split <;> simp [h.apart, hne.symm]
  · intro other hother
    have hstray := h.stray other hother
    by_cases hsame : other = id
    · subst hsame
      by_cases hidle : other ∈ idle <;> simp [hidle]
    · rw [mem_apply_detached, and_iff_right hsame, ← hstray]
      split <;> simp [hsame]

theorem same_iff (h : Differ out strays called idle) :
    called = idle <-> out ∉ idle ∧ strays = ∅ := by
  constructor
  · rintro rfl
    refine ⟨h.unheld, ?_⟩
    apply Finset.eq_empty_of_forall_notMem
    intro id hid
    have hne : id ≠ out := by
      rintro rfl
      exact h.apart hid
    exact (h.stray id hne).mp hid Iff.rfl
  · intro hsame
    ext id
    by_cases hid : id = out
    · subst hid
      exact iff_of_false h.unheld hsame.left
    · by_contra hdiffers
      have hstray := (h.stray id hid).mpr hdiffers
      rw [hsame.right] at hstray
      exact Finset.notMem_empty id hstray

end Differ

/-!
## With and without the call
-/

namespace Wait

def without (w : Wait) (R : Registry) : Registry :=
  match w.newcomer with
  | none => R
  | some m => R.remove m.id

theorem without_none {w : Wait} (h : w.newcomer = none) (R : Registry) :
    w.without R = R := by
  unfold without
  rw [h]

theorem without_some {w : Wait} {m : NetworkDevice}
    (h : w.newcomer = some m) (R : Registry) :
    w.without R = R.remove m.id := by
  unfold without
  rw [h]

end Wait

structure Newcomer (old : NetworkDevice) (idle called : Scene)
    (m : NetworkDevice) : Prop where
  mem : Device.network m ∈ called.registry
  udid : m.udid = old.udid
  unused : idle.Unused m.id
  only : (idle.registry.remove old.id).findNetworkByUdid old.udid = none

/--
`idle` is the scene without the call and `called` the scene with it, as long as
the old device has not left without the call.
-/
structure Parallel (old : NetworkDevice) (w : Wait) (idle called : Scene) :
    Prop where
  keyed : idle.registry.Keyed
  keyed_called : called.registry.Keyed
  first : idle.registry.findNetworkByUdid old.udid = some (.network old)
  registry : w.without called.registry = idle.registry.remove old.id
  newcomer : forall m, w.newcomer = some m -> Newcomer old idle called m
  own : forall n, Device.network n ∈ idle.registry -> n.udid ≠ old.udid ->
    n.id ∉ w.strays
  held : old.id ∈ idle.view <-> w.held = true
  views : Differ old.id w.strays called.view idle.view

namespace Parallel

variable {old : NetworkDevice} {w : Wait} {idle called : Scene}

theorem old_mem (h : Parallel old w idle called) :
    Device.network old ∈ idle.registry :=
  List.mem_of_find?_eq_some h.first

theorem newcomer_ne_old (h : Parallel old w idle called) {m : NetworkDevice}
    (hm : w.newcomer = some m) : m.id ≠ old.id :=
  ((h.newcomer m hm).unused.left _ h.old_mem).symm

theorem mem_called (h : Parallel old w idle called) (d : Device) :
    d ∈ called.registry <->
      d ∈ idle.registry ∧ d.id ≠ old.id ∨
        exists m, w.newcomer = some m ∧ d = .network m := by
  have hregistry := h.registry
  rw [← Registry.mem_remove, ← hregistry]
  cases hm : w.newcomer with
  | none => simp [Wait.without_none hm]
  | some m =>
      rw [Wait.without_some hm, Registry.mem_remove]
      have hmem := (h.newcomer m hm).mem
      constructor
      · intro hd
        by_cases hid : d.id = m.id
        · exact Or.inr ⟨m, rfl, h.keyed_called d _ hd hmem hid⟩
        · exact Or.inl ⟨hd, hid⟩
      · intro hd
        rcases hd with hd | ⟨n, hn, rfl⟩
        · exact hd.left
        · cases hn
          exact hmem

theorem usb_iff (h : Parallel old w idle called) (u : UsbDevice) :
    Device.usb u ∈ called.registry <-> Device.usb u ∈ idle.registry := by
  rw [h.mem_called]
  constructor
  · intro hu
    rcases hu with ⟨hu, _⟩ | ⟨m, _, hu⟩
    · exact hu
    · cases hu
  · intro hu
    refine Or.inl ⟨hu, ?_⟩
    intro hid
    cases h.keyed _ _ hu h.old_mem hid

theorem usb_remove_iff (h : Parallel old w idle called) (id : UInt64)
    (u : UsbDevice) :
    Device.usb u ∈ called.registry.remove id <->
      Device.usb u ∈ idle.registry.remove id := by
  rw [Registry.mem_remove, Registry.mem_remove, h.usb_iff]

theorem hasUsb (h : Parallel old w idle called) (udid : String) :
    called.registry.hasUsbWithUdid udid =
      idle.registry.hasUsbWithUdid udid :=
  Registry.hasUsbWithUdid_congr h.usb_iff udid

theorem hasUsb_remove (h : Parallel old w idle called) (id : UInt64)
    (udid : String) :
    (called.registry.remove id).hasUsbWithUdid udid =
      (idle.registry.remove id).hasUsbWithUdid udid :=
  Registry.hasUsbWithUdid_congr (h.usb_remove_iff id) udid

theorem find_other (h : Parallel old w idle called) {udid : String}
    (hne : udid ≠ old.udid) :
    called.registry.findNetworkIdByUdid udid =
      idle.registry.findNetworkIdByUdid udid := by
  have hidle : (idle.registry.remove old.id).findNetworkByUdid udid =
      idle.registry.findNetworkByUdid udid := by
    apply Registry.findNetworkByUdid_remove
    intro n hn hudid hid
    cases h.keyed _ _ hn h.old_mem hid
    exact hne hudid.symm
  have hcalled : (w.without called.registry).findNetworkByUdid udid =
      called.registry.findNetworkByUdid udid := by
    cases hm : w.newcomer with
    | none => rw [Wait.without_none hm]
    | some m =>
        rw [Wait.without_some hm]
        apply Registry.findNetworkByUdid_remove
        intro n hn hudid hid
        cases h.keyed_called _ _ hn (h.newcomer m hm).mem hid
        exact hne (hudid.symm.trans (h.newcomer m hm).udid)
  unfold Registry.findNetworkIdByUdid
  rw [← hcalled, h.registry, hidle]

theorem find_own (h : Parallel old w idle called) :
    called.registry.findNetworkIdByUdid old.udid = w.standIn old idle := by
  unfold Wait.standIn Registry.findNetworkIdByUdid
  rw [← h.registry]
  cases hm : w.newcomer with
  | none =>
      rw [Wait.without_none hm]
      exact Option.or_none.symm
  | some m =>
      have hnew := h.newcomer m hm
      have hnone := hnew.only
      rw [← h.registry] at hnone
      rw [hnone]
      show _ = some m.id
      cases hfind : called.registry.findNetworkByUdid old.udid with
      | none =>
          exact absurd hnew.udid
            (Registry.findNetworkByUdid_eq_none_iff.mp hfind m hnew.mem)
      | some d =>
          rcases Registry.findNetworkByUdid_eq_some hfind with
            ⟨n, rfl, hn, hudid⟩
          rcases (h.mem_called _).mp hn with ⟨hidle, hne⟩ | ⟨other, hother, heq⟩
          · have hnone' := hnew.only
            exact absurd hudid (Registry.findNetworkByUdid_eq_none_iff.mp
              hnone' n (Registry.mem_remove.mpr ⟨hidle, hne⟩))
          · cases heq
            cases hm.symm.trans hother
            rfl

theorem standIn_ne (h : Parallel old w idle called) {id : UInt64}
    (hid : w.standIn old idle = some id) : id ≠ old.id := by
  rcases Option.or_eq_some_iff.mp hid with hother | ⟨_, hnew⟩
  · rcases Option.map_eq_some_iff.mp hother with ⟨d, hfind, rfl⟩
    exact (Registry.mem_remove.mp (List.mem_of_find?_eq_some hfind)).right
  · rcases Option.map_eq_some_iff.mp hnew with ⟨m, hm, rfl⟩
    exact h.newcomer_ne_old hm

theorem standIn_own (h : Parallel old w idle called) {id : UInt64}
    (hid : w.standIn old idle = some id) {n : NetworkDevice}
    (hn : Device.network n ∈ idle.registry) (hudid : n.udid ≠ old.udid) :
    n.id ≠ id := by
  intro hsame
  rcases Option.or_eq_some_iff.mp hid with hother | ⟨_, hnew⟩
  · rcases Option.map_eq_some_iff.mp hother with ⟨d, hfind, rfl⟩
    rcases Registry.findNetworkByUdid_eq_some hfind with ⟨m, rfl, hm, hmudid⟩
    cases h.keyed _ _ hn (Registry.mem_remove.mp hm).left hsame
    exact hudid hmudid
  · rcases Option.map_eq_some_iff.mp hnew with ⟨m, hm, rfl⟩
    exact (h.newcomer m hm).unused.left _ hn hsame

theorem mem_announce {id : UInt64} {attached : Bool}
    (hid : id ∈ (w.announce old idle attached).strays) :
    id ∈ w.strays ∨ w.standIn old idle = some id := by
  unfold Wait.announce at hid
  cases hfind : w.standIn old idle with
  | none =>
      rw [hfind] at hid
      exact Or.inl hid
  | some other =>
      simp only [hfind] at hid
      split at hid
      · exact Or.inl (Finset.mem_of_mem_erase hid)
      · rcases Finset.mem_insert.mp hid with rfl | hid
        · exact Or.inr rfl
        · exact Or.inl hid

theorem own_announce (h : Parallel old w idle called) (attached : Bool)
    {n : NetworkDevice} (hn : Device.network n ∈ idle.registry)
    (hudid : n.udid ≠ old.udid) :
    n.id ∉ (w.announce old idle attached).strays := by
  intro hid
  rcases mem_announce hid with hid | hid
  · exact h.own n hn hudid hid
  · exact h.standIn_own hid hn hudid rfl

theorem get_other (h : Parallel old w idle called) {id : UInt64}
    (hne : id ≠ old.id)
    (hnew : forall m, w.newcomer = some m -> id ≠ m.id) :
    called.registry.get id = idle.registry.get id := by
  have hcalled : (w.without called.registry).get id =
      called.registry.get id := by
    cases hm : w.newcomer with
    | none => rw [Wait.without_none hm]
    | some m =>
        rw [Wait.without_some hm]
        exact Registry.get_remove (hnew m hm)
  rw [← hcalled, h.registry, Registry.get_remove hne]

/-!
## Changes that the scenes share
-/

theorem find_append_filter {come : List Device} {keep p : Device -> Bool}
    {R : Registry} {found : Option Device}
    (hcome : forall d, d ∈ come -> p d = false) (hfind : R.find? p = found)
    (hkeep : forall d, found = some d -> keep d = true) :
    (come ++ R.filter keep).find? p = found := by
  have hnone : come.find? p = none := by
    apply List.find?_eq_none.mpr
    intro d hd
    rw [hcome d hd]
    exact Bool.false_ne_true
  rw [List.find?_append, hnone, Option.none_or]
  cases found with
  | none =>
      apply List.find?_eq_none.mpr
      intro d hd
      exact List.find?_eq_none.mp hfind d (List.mem_filter.mp hd).left
  | some found =>
      have hkept := hkeep found rfl
      induction R with
      | nil => cases hfind
      | cons d rest ih =>
          cases hp : p d with
          | true =>
              rw [List.find?_cons_of_pos hp] at hfind
              cases hfind
              rw [List.filter_cons_of_pos hkept, List.find?_cons_of_pos hp]
          | false =>
              have hnot : ¬ p d = true := by
                rw [hp]
                exact Bool.false_ne_true
              rw [List.find?_cons_of_neg hnot] at hfind
              rw [List.filter_cons]
              split
              · rw [List.find?_cons_of_neg hnot]
                exact ih hfind
              · exact ih hfind

theorem remove_append_filter {come : List Device} {keep : Device -> Bool}
    {R : Registry} {id : UInt64} (hcome : forall d, d ∈ come -> d.id ≠ id) :
    Registry.remove (come ++ R.filter keep) id =
      come ++ (R.remove id).filter keep := by
  have hstays : Registry.remove come id = come :=
    Registry.remove_of_unused hcome
  have hrest := Registry.remove_filter (R := R) keep id
  unfold Registry.remove at hstays hrest ⊢
  rw [List.filter_append, hstays, hrest]

theorem change (h : Parallel old w idle called) {w' : Wait}
    {idle' called' : Scene} (come : List Device) (keep : Device -> Bool)
    (hidle : idle'.registry = come ++ idle.registry.filter keep)
    (hcalled : called'.registry = come ++ called.registry.filter keep)
    (hkeyed : idle'.registry.Keyed) (hkeyedCalled : called'.registry.Keyed)
    (hsame : w'.newcomer = w.newcomer) (hold : keep (.network old) = true)
    (hnew : forall m, w.newcomer = some m ->
      keep (.network m) = true ∧ idle'.Unused m.id)
    (hcome : forall d, d ∈ come -> d.id ≠ old.id ∧
      (d.isNetwork && d.udid = old.udid) = false ∧
        forall m, w.newcomer = some m -> d.id ≠ m.id)
    (hown : forall n, Device.network n ∈ idle'.registry ->
      n.udid ≠ old.udid -> n.id ∉ w'.strays)
    (hheld : old.id ∈ idle'.view <-> w'.held = true)
    (hviews : Differ old.id w'.strays called'.view idle'.view) :
    Parallel old w' idle' called' := by
  have hrest : idle'.registry.remove old.id =
      come ++ (idle.registry.remove old.id).filter keep := by
    rw [hidle]
    exact remove_append_filter fun d hd => (hcome d hd).left
  refine ⟨hkeyed, hkeyedCalled, ?_, ?_, ?_, hown, hheld, hviews⟩
  · rw [hidle]
    apply find_append_filter (fun d hd => (hcome d hd).right.left) h.first
    intro d hd
    cases hd
    exact hold
  · rw [hrest, ← h.registry]
    cases hm : w.newcomer with
    | none => rw [Wait.without_none (hsame.trans hm), Wait.without_none hm,
        hcalled]
    | some m =>
        rw [Wait.without_some (hsame.trans hm), Wait.without_some hm, hcalled]
        exact remove_append_filter fun d hd => (hcome d hd).right.right m hm
  · intro m hm
    rw [hsame] at hm
    have hbefore := h.newcomer m hm
    constructor
    · rw [hcalled]
      exact List.mem_append_right _
        (List.mem_filter.mpr ⟨hbefore.mem, (hnew m hm).left⟩)
    · exact hbefore.udid
    · exact (hnew m hm).right
    · rw [hrest]
      exact find_append_filter (fun d hd => (hcome d hd).right.left)
        hbefore.only nofun

/-!
## Arrivals
-/

theorem announce (h : Parallel old w idle called) (attached : Bool) :
    let event (id : UInt64) : DeviceEvent :=
      if attached then .attached id else .detached id
    (old.id ∈ apply idle.view (event old.id) <->
        (w.announce old idle attached).held = true) ∧
      Differ old.id (w.announce old idle attached).strays
        (replay called.view
          ((called.registry.findNetworkIdByUdid old.udid).map event).toList)
        (apply idle.view (event old.id)) := by
  constructor
  · cases attached <;> simp [Wait.announce, apply]
  · rw [h.find_own]
    unfold Wait.announce
    cases hfind : w.standIn old idle with
    | none =>
        cases attached with
        | false => exact h.views.idle_only _ rfl
        | true => exact h.views.idle_only _ rfl
    | some id =>
        have hne := h.standIn_ne hfind
        cases attached with
        | false =>
            have hmoved := (h.views.called_detached hne).idle_only
              (.detached old.id) rfl
            by_cases hheld : id ∈ idle.view
            · simpa [hheld] using hmoved
            · simpa [hheld] using hmoved
        | true =>
            have hmoved := (h.views.called_attached hne).idle_only
              (.attached old.id) rfl
            by_cases hheld : id ∈ idle.view
            · simpa [hheld] using hmoved
            · simpa [hheld] using hmoved

theorem find_idle (h : Parallel old w idle called) :
    idle.registry.findNetworkIdByUdid old.udid = some old.id := by
  unfold Registry.findNetworkIdByUdid
  rw [h.first]
  rfl

theorem announce_other (h : Parallel old w idle called) {udid : String}
    (hne : udid ≠ old.udid) {event : UInt64 -> DeviceEvent}
    (hevent : forall id, (event id).deviceId = id) :
    let events :=
      ((idle.registry.findNetworkIdByUdid udid).map event).toList
    (old.id ∈ replay idle.view events <-> w.held = true) ∧
      Differ old.id w.strays (replay called.view events)
        (replay idle.view events) := by
  cases hfind : idle.registry.findNetworkIdByUdid udid with
  | none => exact ⟨h.held, h.views⟩
  | some id =>
      rcases Option.map_eq_some_iff.mp hfind with ⟨d, hd, rfl⟩
      rcases Registry.findNetworkByUdid_eq_some hd with ⟨n, rfl, hn, hudid⟩
      have hudid : n.udid ≠ old.udid := fun hsame => hne (hudid.symm.trans hsame)
      have hother : (event n.id).deviceId ≠ old.id := by
        rw [hevent]
        intro hid
        cases h.keyed _ _ hn h.old_mem hid
        exact hudid rfl
      have hboth := h.views.both _ hother
      rw [hevent, Finset.erase_eq_of_notMem (h.own n hn hudid)] at hboth
      exact ⟨(mem_apply_of_ne _ hother).trans h.held, hboth⟩

/--
A USB device comes or goes: both views hear of its id, after the network device
of its UDID that is found.
-/
theorem announce_usb (h : Parallel old w idle called) (attached : Bool)
    (udid : String) (own : DeviceEvent) (hne : own.deviceId ≠ old.id) :
    let event (id : UInt64) : DeviceEvent :=
      if attached then .attached id else .detached id
    let heard (s : Scene) : Finset UInt64 := apply (replay s.view
      ((s.registry.findNetworkIdByUdid udid).map event).toList) own
    let w' := (if udid = old.udid then w.announce old idle attached
      else w).settle own.deviceId
    (old.id ∈ heard idle <-> w'.held = true) ∧
      Differ old.id w'.strays (heard called) (heard idle) := by
  intro event heard w'
  have hkeeps : old.id ∈ heard idle <-> old.id ∈ replay idle.view
      ((idle.registry.findNetworkIdByUdid udid).map event).toList :=
    mem_apply_of_ne own hne
  by_cases hudid : udid = old.udid
  · subst hudid
    rcases h.announce attached with ⟨hheld, hviews⟩
    have hw : w' = (w.announce old idle attached).settle own.deviceId := by
      show (if _ then _ else _ : Wait).settle _ = _
      rw [if_pos rfl]
    show (_ ∈ heard idle <-> _) ∧ _
    rw [hw, hkeeps, h.find_idle]
    refine ⟨hheld, ?_⟩
    show Differ _ _ _ (apply (replay idle.view _) own)
    rw [h.find_idle]
    exact hviews.both own hne
  · have hevent : forall id, (event id).deviceId = id := by
      intro id
      cases attached <;> rfl
    rcases h.announce_other hudid hevent with ⟨hheld, hviews⟩
    have hw : w' = w.settle own.deviceId := by
      show (if _ then _ else _ : Wait).settle _ = _
      rw [if_neg hudid]
    rw [hw]
    refine ⟨hkeeps.trans hheld, ?_⟩
    show Differ _ _ (apply (replay called.view _) own) _
    rw [h.find_other hudid]
    exact hviews.both own hne

theorem own_usb (h : Parallel old w idle called) (attached : Bool)
    {udid : String} {id : UInt64} {n : NetworkDevice}
    (hn : Device.network n ∈ idle.registry) (hudid : n.udid ≠ old.udid) :
    n.id ∉ ((if udid = old.udid then w.announce old idle attached
      else w).settle id).strays := by
  intro hid
  have hid := Finset.mem_of_mem_erase hid
  split at hid
  · exact h.own_announce attached hn hudid hid
  · exact h.own n hn hudid hid

theorem usbConnected (h : Parallel old w idle called) {device : UsbDevice}
    (hidle : forall n, Device.network n ∈ idle.registry -> n.id ≠ device.id)
    (hcalled : forall n, Device.network n ∈ called.registry ->
      n.id ≠ device.id) :
    Parallel old (w.next old idle (.usbConnected device))
      (idle.handle (.usbConnected device))
      (called.handle (.usbConnected device)) := by
  have hregistry : forall s : Scene,
      (s.handle (.usbConnected device)).registry = [.usb device] ++
        s.registry.filter fun d => decide (d.id ≠ device.id) &&
          (d.isNetwork || decide (d.udid ≠ device.udid)) := by
    intro s
    rw [← List.filter_filter]
    rfl
  have hview : forall s : Scene, (s.handle (.usbConnected device)).view =
      apply (replay s.view ((s.registry.findNetworkIdByUdid device.udid).map
        DeviceEvent.detached).toList) (.attached device.id) := by
    intro s
    show replay s.view (s.registry.usbConnected device).snd = _
    unfold Registry.usbConnected
    cases s.registry.findNetworkIdByUdid device.udid with
    | none => rfl
    | some id => rfl
  have holdNe : old.id ≠ device.id := hidle old h.old_mem
  have hheard := h.announce_usb false device.udid (.attached device.id)
    holdNe.symm
  apply h.change _ _ (hregistry idle) (hregistry called)
    (Scene.keyed_handle h.keyed _) (Scene.keyed_handle h.keyed_called _)
  · show (if _ then _ else _ : Wait).newcomer = _
    split <;> rfl
  · exact Bool.and_eq_true_iff.mpr ⟨decide_eq_true holdNe, rfl⟩
  · intro m hm
    have hne := hcalled m (h.newcomer m hm).mem
    refine ⟨Bool.and_eq_true_iff.mpr ⟨decide_eq_true hne, rfl⟩, ?_⟩
    apply (h.newcomer m hm).unused.handle
    · intro hid
      exact hne (Option.some.inj hid).symm
    · exact nofun
  · intro d hd
    cases List.mem_singleton.mp hd
    exact ⟨holdNe.symm, rfl,
      fun m hm => (hcalled m (h.newcomer m hm).mem).symm⟩
  · intro n hn hudid
    rcases Registry.mem_usbConnected.mp hn with hn | ⟨⟨hn, _⟩, _⟩
    · cases hn
    · exact h.own_usb false hn hudid
  · rw [hview idle]
    exact hheard.left
  · rw [hview idle, hview called]
    exact hheard.right

theorem hasUsb_insert {s : Scene} {device : NetworkDevice}
    (hunused : s.Unused device.id) :
    (s.registry.insert (.network device)).hasUsbWithUdid device.udid =
      s.registry.hasUsbWithUdid device.udid := by
  rw [Bool.eq_iff_iff, Registry.hasUsbWithUdid_iff,
    Registry.hasUsbWithUdid_iff, Registry.usbHas_insert_network hunused.left]

theorem not_stray (h : Parallel old w idle called) {id : UInt64}
    (hidle : idle.Unused id) (hcalled : called.Unused id) : id ∉ w.strays := by
  have hne : id ≠ old.id := (hidle.left _ h.old_mem).symm
  rw [h.views.stray id hne, not_not]
  exact iff_of_false hcalled.right hidle.right

theorem arrive_newcomer (h : Parallel old w idle called)
    {device : NetworkDevice} (hidle : idle.Unused device.id)
    (hcalled : called.Unused device.id) (hudid : device.udid = old.udid)
    (hnone : w.standIn old idle = none) :
    Parallel old
      { w with
        newcomer := some device
        strays :=
          if idle.registry.hasUsbWithUdid old.udid then w.strays
          else insert device.id w.strays }
      idle (called.handle (.networkConnected device)) := by
  have hunknown : called.registry.findNetworkIdByUdid device.udid = none := by
    rw [hudid, h.find_own, hnone]
  rcases Option.or_eq_none_iff.mp hnone with ⟨hothers, hnew⟩
  have hregistry := h.registry
  rw [Wait.without_none (Option.map_eq_none_iff.mp hnew)] at hregistry
  rw [Scene.handle_of_unknown hunknown, hasUsb_insert hcalled, h.hasUsb, hudid]
  refine ⟨h.keyed, h.keyed_called.insert _, h.first, ?_, ?_, ?_, h.held, ?_⟩
  · show Registry.remove (Device.network device ::
      called.registry.remove device.id) device.id = _
    rw [Registry.remove_of_unused hcalled.left, Registry.remove,
      List.filter_cons, if_neg (by simp [Device.id]), ← hregistry]
    exact Registry.remove_of_unused hcalled.left
  · intro m hm
    cases hm
    exact ⟨Registry.mem_insert.mpr (Or.inl rfl), hudid, hidle,
      Option.map_eq_none_iff.mp hothers⟩
  · intro n hn hother
    have hkept := h.own n hn hother
    show n.id ∉ (if _ then _ else _ : Finset UInt64)
    split
    · exact hkept
    · intro hid
      exact (Finset.mem_insert.mp hid).elim (hidle.left _ hn) hkept
  · have hshown := h.views.called_attached (hidle.left _ h.old_mem).symm
    rw [if_neg hidle.right] at hshown
    cases idle.registry.hasUsbWithUdid old.udid with
    | true => exact h.views
    | false => exact hshown

theorem arrive_other (h : Parallel old w idle called) {device : NetworkDevice}
    (hidle : idle.Unused device.id) (hcalled : called.Unused device.id)
    (hudid : device.udid ≠ old.udid)
    (hunknown : idle.registry.findNetworkIdByUdid device.udid = none) :
    Parallel old w (idle.handle (.networkConnected device))
      (called.handle (.networkConnected device)) := by
  have hnext := Scene.handle_of_unknown hunknown
  have hnextCalled :=
    Scene.handle_of_unknown ((h.find_other hudid).trans hunknown)
  rw [hasUsb_insert hidle] at hnext
  rw [hasUsb_insert hcalled, h.hasUsb] at hnextCalled
  have hne : device.id ≠ old.id := (hidle.left _ h.old_mem).symm
  have hnew : forall m, w.newcomer = some m -> m.id ≠ device.id := by
    intro m hm
    exact hcalled.left _ (h.newcomer m hm).mem
  have hstray := h.not_stray hidle hcalled
  apply h.change [.network device] (fun d => decide (d.id ≠ device.id))
    (congrArg Scene.registry hnext) (congrArg Scene.registry hnextCalled)
    (Scene.keyed_handle h.keyed _) (Scene.keyed_handle h.keyed_called _) rfl
    (decide_eq_true hne.symm)
  · intro m hm
    refine ⟨decide_eq_true (hnew m hm), ?_⟩
    apply (h.newcomer m hm).unused.handle
    · exact nofun
    · intro hid
      exact hnew m hm (Option.some.inj hid).symm
  · intro d hd
    cases List.mem_singleton.mp hd
    exact ⟨hne, decide_eq_false hudid, fun m hm => (hnew m hm).symm⟩
  · intro n hn hother
    rw [hnext] at hn
    rcases Registry.mem_insert.mp hn with hn | ⟨hn, _⟩
    · cases hn
      exact hstray
    · exact h.own n hn hother
  · rw [hnext]
    cases idle.registry.hasUsbWithUdid device.udid with
    | true => exact h.held
    | false =>
        exact (mem_apply_of_ne (.attached device.id) hne).trans h.held
  · have hboth := h.views.both (.attached device.id) hne
    rw [show (DeviceEvent.attached device.id).deviceId = device.id from rfl,
      Finset.erase_eq_of_notMem hstray] at hboth
    rw [hnext, hnextCalled]
    cases idle.registry.hasUsbWithUdid device.udid with
    | true => exact h.views
    | false => exact hboth

theorem networkConnected (h : Parallel old w idle called)
    {device : NetworkDevice} (hidle : idle.Unused device.id)
    (hcalled : called.Unused device.id) :
    Parallel old (w.next old idle (.networkConnected device))
      (idle.handle (.networkConnected device))
      (called.handle (.networkConnected device)) := by
  rw [Wait.next_networkConnected]
  by_cases hudid : device.udid = old.udid
  · have hknown : (idle.registry.findNetworkIdByUdid device.udid).isSome =
        true := by
      rw [hudid, h.find_idle]
      rfl
    rw [Scene.handle_of_known hknown]
    cases hfind : w.standIn old idle with
    | none =>
        rw [if_pos ⟨hudid, rfl⟩]
        exact h.arrive_newcomer hidle hcalled hudid hfind
    | some id =>
        have hcalledKnown :
            (called.registry.findNetworkIdByUdid device.udid).isSome = true := by
          rw [hudid, h.find_own, hfind]
          rfl
        rw [if_neg (fun hboth => Option.some_ne_none id hboth.right),
          Scene.handle_of_known hcalledKnown]
        exact h
  · rw [if_neg (fun hboth => hudid hboth.left)]
    cases hfind : idle.registry.findNetworkIdByUdid device.udid with
    | none => exact h.arrive_other hidle hcalled hudid hfind
    | some id =>
        have hknown : (idle.registry.findNetworkIdByUdid device.udid).isSome =
            true := by
          rw [hfind]
          rfl
        have hcalledKnown :
            (called.registry.findNetworkIdByUdid device.udid).isSome = true := by
          rw [h.find_other hudid]
          exact hknown
        rw [Scene.handle_of_known hknown, Scene.handle_of_known hcalledKnown]
        exact h

/-!
## Departures
-/

theorem remove_both (h : Parallel old w idle called) {w' : Wait}
    {event : WatcherEvent} {id : UInt64} (hne : id ≠ old.id)
    (hidle : (idle.handle event).registry = idle.registry.remove id)
    (hcalled : (called.handle event).registry = called.registry.remove id)
    (hleaves : Scene.Leaves event id) (hsame : w'.newcomer = w.newcomer)
    (hnew : forall m, w.newcomer = some m -> m.id ≠ id)
    (hown : forall n, Device.network n ∈ idle.registry ->
      n.udid ≠ old.udid -> n.id ∉ w'.strays)
    (hheld : old.id ∈ (idle.handle event).view <-> w'.held = true)
    (hviews : Differ old.id w'.strays (called.handle event).view
      (idle.handle event).view) :
    Parallel old w' (idle.handle event) (called.handle event) := by
  apply h.change [] (fun d => decide (d.id ≠ id)) hidle hcalled
    (Scene.keyed_handle h.keyed _) (Scene.keyed_handle h.keyed_called _) hsame
    (decide_eq_true hne.symm)
  · intro m hm
    refine ⟨decide_eq_true (hnew m hm), ?_⟩
    rcases hleaves with rfl | rfl
    · exact (h.newcomer m hm).unused.handle nofun nofun
    · exact (h.newcomer m hm).unused.handle nofun nofun
  · exact nofun
  · intro n hn
    rw [hidle] at hn
    exact hown n (Registry.mem_remove.mp hn).left
  · exact hheld
  · exact hviews

theorem remove_usb (h : Parallel old w idle called) {u : UsbDevice}
    {id : UInt64} (hget : idle.registry.get id = some (.usb u)) :
    Parallel old
      ((if u.udid = old.udid then w.announce old idle true else w).settle id)
      (idle.handle (.usbDisconnected id))
      (called.handle (.usbDisconnected id)) := by
  rcases Registry.get_eq_some hget with ⟨hu, hid⟩
  have hne : id ≠ old.id := by
    rintro rfl
    cases h.keyed _ _ hu h.old_mem hid
  have hnew : forall m, w.newcomer = some m -> m.id ≠ id := by
    rintro m hm rfl
    exact (h.newcomer m hm).unused.left _ hu hid
  have hgetCalled : called.registry.get id = some (.usb u) := by
    rw [h.get_other hne fun m hm => (hnew m hm).symm, hget]
  have hview : forall {s : Scene}, s.registry.Keyed ->
      s.registry.get id = some (.usb u) ->
      (s.handle (.usbDisconnected id)).view = apply (replay s.view
        ((s.registry.findNetworkIdByUdid u.udid).map
          DeviceEvent.attached).toList) (.detached id) := by
    intro s hkeyed hs
    have hfind : (s.registry.remove id).findNetworkIdByUdid u.udid =
        s.registry.findNetworkIdByUdid u.udid := by
      unfold Registry.findNetworkIdByUdid
      rw [Registry.findNetworkByUdid_remove]
      intro n hn _ hnid
      rcases Registry.get_eq_some hs with ⟨hmem, hdid⟩
      cases hkeyed _ _ hn hmem (hnid.trans hdid.symm)
    rw [Scene.handle_of_get_usb hs]
    show replay s.view _ = _
    rw [hfind]
    cases s.registry.findNetworkIdByUdid u.udid with
    | none => rfl
    | some ndevId => rfl
  have hheard := h.announce_usb true u.udid (.detached id) hne
  apply h.remove_both hne (congrArg Scene.registry (Scene.handle_of_get_usb hget))
    (congrArg Scene.registry (Scene.handle_of_get_usb hgetCalled)) (Or.inl rfl)
  · show (if _ then _ else _ : Wait).newcomer = _
    split <;> rfl
  · exact hnew
  · intro n hn hudid
    exact h.own_usb true hn hudid
  · rw [hview h.keyed hget]
    exact hheard.left
  · rw [hview h.keyed hget, hview h.keyed_called hgetCalled]
    exact hheard.right

theorem remove_network (h : Parallel old w idle called) {n : NetworkDevice}
    {event : WatcherEvent} {id : UInt64} (hleaves : Scene.Leaves event id)
    (hne : id ≠ old.id)
    (hget : idle.registry.get id = some (.network n)) :
    Parallel old (w.leave old idle id) (idle.handle event)
      (called.handle event) := by
  rcases Registry.get_eq_some hget with ⟨hn, hid⟩
  have hnew : forall m, w.newcomer = some m -> m.id ≠ id := by
    rintro m hm rfl
    exact (h.newcomer m hm).unused.left _ hn hid
  have hgetCalled : called.registry.get id = some (.network n) := by
    rw [h.get_other hne fun m hm => (hnew m hm).symm, hget]
  have hidle := Scene.handle_of_get_network hleaves hget
  have hcalled := Scene.handle_of_get_network hleaves hgetCalled
  have hleft : w.leave old idle id =
      if (idle.registry.remove id).hasUsbWithUdid n.udid then w
      else w.settle id := by
    unfold Wait.leave
    rw [if_neg hne, hget]
    rfl
  rw [h.hasUsb_remove] at hcalled
  rw [hleft]
  apply h.remove_both hne (congrArg Scene.registry hidle)
    (congrArg Scene.registry hcalled) hleaves
  · split <;> rfl
  · exact hnew
  · intro m hm hudid
    split
    · exact h.own m hm hudid
    · exact fun hmem => h.own m hm hudid (Finset.mem_of_mem_erase hmem)
  · rw [hidle]
    cases (idle.registry.remove id).hasUsbWithUdid n.udid with
    | true => exact h.held
    | false => exact (mem_apply_of_ne (.detached id) hne).trans h.held
  · rw [hidle, hcalled]
    cases (idle.registry.remove id).hasUsbWithUdid n.udid with
    | true => exact h.views
    | false => exact h.views.both (.detached id) hne

theorem remove_newcomer (h : Parallel old w idle called) {m : NetworkDevice}
    {event : WatcherEvent} (hleaves : Scene.Leaves event m.id)
    (hm : w.newcomer = some m) :
    Parallel old (w.leave old idle m.id) (idle.handle event)
      (called.handle event) := by
  have hnew := h.newcomer m hm
  have hne := h.newcomer_ne_old hm
  have hnone : idle.registry.get m.id = none := by
    cases hget : idle.registry.get m.id with
    | none => rfl
    | some d =>
        rcases Registry.get_eq_some hget with ⟨hd, hid⟩
        exact absurd hid (hnew.unused.left d hd)
  have hcalled := Scene.handle_of_get_network hleaves
    (Registry.get_of_mem h.keyed_called hnew.mem)
  rw [h.hasUsb_remove, Registry.remove_of_unused hnew.unused.left,
    hnew.udid] at hcalled
  have hleft : w.leave old idle m.id =
      if idle.registry.hasUsbWithUdid old.udid then { w with newcomer := none }
      else Wait.settle { w with newcomer := none } m.id := by
    unfold Wait.leave
    rw [if_neg hne, hnone]
    simp only [hm, Option.map_some, if_true]
  have hregistry := h.registry
  rw [Wait.without_some hm] at hregistry
  rw [Scene.handle_of_get_none hleaves hnone, hcalled, hleft]
  have hgone : (if idle.registry.hasUsbWithUdid old.udid then
      { w with newcomer := none }
      else Wait.settle { w with newcomer := none } m.id).newcomer = none := by
    split <;> rfl
  refine ⟨h.keyed, h.keyed_called.remove _, h.first, ?_, ?_, ?_, ?_, ?_⟩
  · rw [Wait.without_none hgone]
    exact hregistry
  · intro other hother
    rw [hgone] at hother
    cases hother
  · intro n hn hudid
    split
    · exact h.own n hn hudid
    · exact fun hmem => h.own n hn hudid (Finset.mem_of_mem_erase hmem)
  · rw [h.held]
    split <;> rfl
  · have hshown := h.views.called_detached hne
    rw [if_neg hnew.unused.right] at hshown
    cases idle.registry.hasUsbWithUdid old.udid with
    | true => exact h.views
    | false => exact hshown

theorem leave (h : Parallel old w idle called) {event : WatcherEvent}
    {id : UInt64} (hleaves : Scene.Leaves event id)
    (hkind : forall u, Device.usb u ∈ idle.registry -> u.id ≠ id)
    (hne : id ≠ old.id) :
    Parallel old (w.leave old idle id) (idle.handle event)
      (called.handle event) := by
  cases hget : idle.registry.get id with
  | some d =>
      cases d with
      | usb u =>
          rcases Registry.get_eq_some hget with ⟨hu, hid⟩
          exact absurd hid (hkind u hu)
      | network n => exact h.remove_network hleaves hne hget
  | none =>
      by_cases hnew : w.newcomer.map NetworkDevice.id = some id
      · rcases Option.map_eq_some_iff.mp hnew with ⟨m, hm, rfl⟩
        exact h.remove_newcomer hleaves hm
      · have hothers : forall m, w.newcomer = some m -> id ≠ m.id := by
          rintro m hm rfl
          rw [hm] at hnew
          exact hnew rfl
        have hleft : w.leave old idle id = w := by
          unfold Wait.leave
          rw [if_neg hne, hget]
          exact if_neg hnew
        rw [hleft, Scene.handle_of_get_none hleaves hget,
          Scene.handle_of_get_none hleaves ((h.get_other hne hothers).trans hget)]
        exact h

/-!
## One event
-/

theorem next (h : Parallel old w idle called) {event : WatcherEvent}
    {events : List WatcherEvent} (hidle : idle.Arrivals (event :: events))
    (hcalled : called.Arrivals (event :: events))
    (hstays : ¬ Scene.Leaves event old.id) :
    Parallel old (w.next old idle event) (idle.handle event)
      (called.handle event) := by
  cases event with
  | usbConnected device =>
      exact h.usbConnected (hidle.usb_head rfl) (hcalled.usb_head rfl)
  | networkConnected device =>
      exact h.networkConnected (hidle.network_head rfl)
        (hcalled.network_head rfl)
  | networkDisconnected id =>
      apply h.leave (Or.inr rfl) hidle.kind_head
      rintro rfl
      exact hstays (Or.inr rfl)
  | usbDisconnected id =>
      cases hget : idle.registry.get id with
      | some d =>
          cases d with
          | usb u =>
              rw [Wait.next_usbDisconnected, hget]
              exact h.remove_usb hget
          | network n =>
              rw [Wait.next_usbDisconnected, hget]
              apply h.remove_network (Or.inl rfl) _ hget
              rintro rfl
              exact hstays (Or.inl rfl)
      | none =>
          rw [Wait.next_usbDisconnected, hget]
          apply h.leave (Or.inl rfl)
          · intro u hu hid
            exact Registry.get_eq_none hget _ hu hid
          · rintro rfl
            exact hstays (Or.inl rfl)

theorem departs (h : Parallel old w idle called) {event : WatcherEvent}
    (hleaves : Scene.Leaves event old.id) :
    (w.next old idle event).departed = true ∧
      forall d, d ∈ (idle.handle event).registry -> d.id ≠ old.id := by
  have hget : idle.registry.get old.id = some (.network old) :=
    Registry.get_of_mem h.keyed h.old_mem
  constructor
  · have hleft : (w.leave old idle old.id).departed = true := by
      unfold Wait.leave
      rw [if_pos rfl]
    rcases hleaves with rfl | rfl
    · rw [Wait.next_usbDisconnected, hget]
      exact hleft
    · exact hleft
  · rw [Scene.handle_of_get_network hleaves hget]
    intro d hd
    exact (Registry.mem_remove.mp hd).right

end Parallel

end Watcher
end Rusbmux
