import Rusbmux.Watcher.ExposureInvariant

/-!
# The watchers keep what handlers rely on

What the watchers and the requests share first: a detachment that is sent, a
device that is removed, a network device that is registered.  Then each step of
the USB watcher and of the network watcher keeps the invariant, under the guard
that says the step exposes one device.
-/

namespace Rusbmux
namespace Watcher

open Foundation

namespace Exposure

variable {s t : Exposure}

/-!
## Changes that several handlers make
-/

theorem Invariant.not_replaced_usb (h : Invariant s) {u : UsbDevice}
    (hu : Device.usb u ∈ s.known) : ¬ s.Replaced u.id := by
  intro hreplaced
  rcases hreplaced with ⟨request, handler, hadd, hreplaces⟩
  rcases (h.adds request handler hadd).replaced hreplaces with ⟨n, hn, hid⟩
  cases (h.same _ _ hn hu hid).right

theorem Invariant.detachUsb (h : Invariant s) {handler : UsbHandler}
    {id : UInt64} (howed : s.usb.detaches = some id)
    (hgrounded : handler.Grounded s.registry s.known)
    (hconnects : forall udid, handler.connects = some udid ->
      s.usb.connects = some udid) :
    Invariant { s.send (.detached id) with usb := handler } where
  coherent := h.coherent
  registered := h.registered
  same := h.same
  usb := hgrounded
  network := h.network
  adds := h.adds
  grounded :=
    listener_send fun l hl => (h.grounded l hl).push (h.usb.owed howed)
  watched := by
    refine listener_send fun l hl => ?_
    have htold : Watched s.registry s.UsbTakes
        (Awaited { s.send (.detached id) with usb := handler }) s.Replaced
        (l.push (.detached id)) := by
      apply (h.watched l hl).detach
      · intro other hne hpending
        refine hpending.of_usb (fun hother => ?_) rfl rfl
        rw [UsbHandler.awaits_of_detaches howed] at hother
        exact absurd (Option.some.inj hother).symm hne
      · exact fun _ hreplaced => Or.inl hreplaced
    refine htold.move ?_ ?_ ?_
    · exact fun _ _ hpending => hpending
    · intro other _ hclear
      refine Or.inr (hclear.keep (fun _ hd _ => hd) ?_)
      intro n _ _ htakes
      exact htakes.imp_right (hconnects n.udid)
    · exact fun _ hreplaced => hreplaced

theorem Invariant.detachNetwork (h : Invariant s) {handler : NetworkHandler}
    {id : UInt64} (howed : s.network.detaches = some id)
    (hgrounded : handler.Grounded s.known) :
    Invariant { s.send (.detached id) with network := handler } where
  coherent := h.coherent
  registered := h.registered
  same := h.same
  usb := h.usb
  network := hgrounded
  adds := h.adds
  grounded :=
    listener_send fun l hl => (h.grounded l hl).push (h.network.owed howed)
  watched := by
    refine listener_send fun l hl => (h.watched l hl).detach ?_ ?_
    · intro other hne hpending
      refine hpending.of_network (fun hother => ?_) rfl rfl
      rw [howed] at hother
      exact absurd (Option.some.inj hother).symm hne
    · exact fun _ hreplaced => Or.inl hreplaced

theorem Invariant.watched_remove (h : Invariant s) {id : UInt64}
    (hregistry : t.registry = s.registry.remove id)
    (hconnects : forall udid, t.usb.connects = some udid ->
      s.usb.connects = some udid)
    (hpending : forall other, s.Awaited other -> t.Awaited other)
    (hreplaced : forall other, t.Replaced other -> s.Replaced other)
    {l : Listener} (hl : s.listener = some l)
    (howed : l.Left s.registry id -> t.Awaited id) :
    Watched t.registry t.UsbTakes t.Awaited t.Replaced l := by
  have hsub : forall d, d ∈ t.registry -> d ∈ s.registry := by
    intro d hd
    rw [hregistry] at hd
    exact (Registry.mem_remove.mp hd).left
  refine (h.watched l hl).change ?_ ?_ ?_ hreplaced
  · intro other _ hget
    rcases Registry.get_isSome_iff.mp hget with ⟨d, hd, hid⟩
    exact Or.inl (Registry.get_isSome_iff.mpr ⟨d, hsub d hd, hid⟩)
  · exact fun other _ hp => Or.inl (hpending other hp)
  · intro other hleft hclear
    by_cases hother : other = id
    · subst other
      exact Or.inl (howed hleft)
    · refine Or.inr (hclear.keep ?_ ?_)
      · intro d hd hid
        rw [hregistry]
        exact Registry.mem_remove.mpr ⟨hd, fun hsame => hother (hid ▸ hsame)⟩
      · intro n _ _ htakes
        rcases htakes with ⟨u, hu, hudid⟩ | htakes
        · exact Or.inl ⟨u, hsub _ hu, hudid⟩
        · exact Or.inr (hconnects _ htakes)

theorem Invariant.registered_remove (h : Invariant s) (id : UInt64) :
    s.registry.remove id ⊆ s.known :=
  fun _ hd => h.registered (Registry.mem_remove.mp hd).left

theorem Invariant.registered_insert (h : Invariant s) (dev : Device) :
    Registry.insert s.registry dev ⊆ dev :: s.known := by
  intro d hd
  rcases Registry.mem_insert.mp hd with rfl | ⟨hd, _⟩
  · exact List.mem_cons_self
  · exact List.mem_cons_of_mem _ (h.registered hd)

theorem Invariant.same_cons (h : Invariant s) {dev : Device}
    (hsame : forall e, e ∈ s.known -> e.id = dev.id ->
      e.udid = dev.udid ∧ e.isUsb = dev.isUsb) :
    forall d e, d ∈ dev :: s.known -> e ∈ dev :: s.known -> d.id = e.id ->
      d.udid = e.udid ∧ d.isUsb = e.isUsb := by
  intro d e hd he hid
  rcases List.mem_cons.mp hd with hnew | hd
  · subst d
    rcases List.mem_cons.mp he with rfl | he
    · exact ⟨rfl, rfl⟩
    · rcases hsame e he hid.symm with ⟨hudid, hkind⟩
      exact ⟨hudid.symm, hkind.symm⟩
  · rcases List.mem_cons.mp he with hnew | he
    · subst e
      exact hsame d hd hid
    · exact h.same d e hd he hid

theorem Invariant.usb_remove (h : Invariant s) {id : UInt64}
    (hid : HoldsNetwork s.known id) :
    s.usb.Grounded (s.registry.remove id) s.known := by
  apply h.usb.mono (fun _ hd => hd)
  · intro udid husb
    rcases husb with ⟨u, hu, hudid⟩
    exact ⟨u, (Registry.mem_remove.mp hu).left, hudid⟩
  · intro u hu
    refine Registry.mem_remove.mpr ⟨hu, ?_⟩
    intro hsame
    rcases hid with ⟨n, hn, hnid⟩
    cases (h.same _ _ hn (h.registered hu) (hnid.trans hsame.symm)).right

/-- A network device is registered that is new, or was there before and is not
left with the listener. -/
theorem Invariant.registerNetwork (h : Invariant s) {dev : NetworkDevice}
    (hnone : s.NoNetwork dev.udid)
    (hsame : forall e, e ∈ s.known -> e.id = dev.id ->
      e.udid = dev.udid ∧ e.isUsb = false)
    (hleft : forall l, s.listener = some l -> ¬ l.MayBeLeft dev.id) :
    Invariant (s.register (.network dev)) := by
  have hfresh : forall d, d ∈ s.registry -> d.id ≠ dev.id := by
    intro d hd hid
    rcases hsame d (h.registered hd) hid with ⟨hudid, husb⟩
    cases d with
    | usb u => cases husb
    | network n => exact hnone n hd hudid
  have hsub : s.known ⊆ (s.register (.network dev)).known :=
    List.subset_cons_self _ _
  have hthere : forall d, d ∈ s.registry ->
      d ∈ (s.register (.network dev)).registry := by
    intro d hd
    exact Registry.mem_insert.mpr (Or.inr ⟨hd, hfresh d hd⟩)
  constructor
  case coherent => exact h.coherent.insert_network hnone
  case registered => exact h.registered_insert _
  case same => exact h.same_cons hsame
  case usb =>
      apply h.usb.mono hsub
      · intro udid husb
        exact (Registry.usbHas_insert_network hfresh udid).mp husb
      · exact fun u hu => hthere _ hu
  case network => exact h.network.mono hsub
  case adds => exact fun request old hold => (h.adds request old hold).mono hsub
  case grounded => exact fun l hl => (h.grounded l hl).mono hsub
  case watched =>
      intro l hl
      apply (h.watched l hl).change
      · intro id hmay hget
        rcases Registry.get_isSome_iff.mp hget with ⟨d, hd, rfl⟩
        rcases Registry.mem_insert.mp hd with rfl | ⟨hd, _⟩
        · exact absurd hmay (hleft l hl)
        · exact Or.inl (Registry.get_isSome_iff.mpr ⟨d, hd, rfl⟩)
      · exact fun _ _ hpending => Or.inl hpending
      · intro id _ hclear
        refine Or.inr (hclear.keep (fun d hd _ => hthere d hd) ?_)
        intro n _ _ htakes
        exact htakes.imp_left (Registry.usbHas_insert_network hfresh n.udid).mp
      · exact fun _ hreplaced => hreplaced

/-!
## Steps of the USB watcher
-/

theorem mem_of_findNetworkIdByUdid {R : Registry} {udid : String} {id : UInt64}
    (h : R.findNetworkIdByUdid udid = some id) :
    exists n, Device.network n ∈ R ∧ n.udid = udid ∧ n.id = id := by
  rcases Option.map_eq_some_iff.mp h with ⟨d, hfind, hid⟩
  rcases Registry.findNetworkByUdid_eq_some hfind with ⟨n, rfl, hn, hudid⟩
  exact ⟨n, hn, hudid, hid⟩

/-- A USB device takes its UDID when the watcher has looked for the network
device that it hides. -/
theorem Invariant.usbConnected (h : Invariant s) {device : UsbDevice}
    (hstep : s.usbConnected device = some t) : Invariant t := by
  unfold Exposure.usbConnected at hstep
  split at hstep
  case h_2 => cases hstep
  rename_i hidle
  cases hstep
  refine { h with usb := ?_, watched := ?_ }
  · intro id hfound
    rcases mem_of_findNetworkIdByUdid hfound with ⟨n, hn, _, hid⟩
    exact ⟨.network n, h.registered hn, hid⟩
  · intro l hl
    apply (h.watched l hl).move
    · intro id _ hpending
      refine hpending.of_usb (fun howed => ?_) rfl rfl
      rw [hidle] at howed
      cases howed
    · intro id _ hclear
      by_cases hhidden : exists n, Device.network n ∈ s.registry ∧ n.id = id ∧
          n.udid = device.udid
      · rcases hhidden with ⟨n, hn, hid, hudid⟩
        refine Or.inl (Or.inl ?_)
        show s.registry.findNetworkIdByUdid device.udid = some id
        cases hfound : s.registry.findNetworkIdByUdid device.udid with
        | none =>
            have hnone := Option.map_eq_none_iff.mp hfound
            exact absurd hudid
              (Registry.findNetworkByUdid_eq_none_iff.mp hnone n hn)
        | some found =>
            rcases mem_of_findNetworkIdByUdid hfound with ⟨m, hm, hmudid, hmid⟩
            cases h.coherent.network_unique m n hm hn (hmudid.trans hudid.symm)
            rw [← hmid, hid]
      · refine Or.inr (hclear.keep (fun _ hd _ => hd) ?_)
        intro n hn hid htakes
        rcases htakes with husb | hconnects
        · exact Or.inl husb
        · exact absurd ⟨n, hn, hid, (Option.some.inj hconnects).symm⟩ hhidden
    · exact fun _ hreplaced => hreplaced

theorem Invariant.usbDisconnected (h : Invariant s) {id : UInt64}
    (hstep : s.usbDisconnected id = some t) : Invariant t := by
  unfold Exposure.usbDisconnected at hstep
  split at hstep
  case h_1 =>
      cases hstep
      exact h
  case h_3 => cases hstep
  rename_i device hidle hget
  cases hstep
  rcases Registry.get_eq_some hget with ⟨hdevice, hid⟩
  constructor
  case coherent => exact h.coherent.remove id
  case registered => exact h.registered_remove id
  case same => exact h.same
  case usb => exact ⟨rfl, h.registered hdevice⟩
  case network => exact h.network
  case adds => exact h.adds
  case grounded => exact h.grounded
  case watched =>
      intro l hl
      refine h.watched_remove rfl ?_ ?_ ?_ hl ?_
      · intro udid hconnects
        cases hconnects
      · intro other hpending
        refine hpending.of_usb (fun howed => ?_) rfl rfl
        rw [hidle] at howed
        cases howed
      · exact fun _ hreplaced => hreplaced
      · intro _
        exact Or.inl (congrArg some hid)

theorem Invariant.usb_of_eq (h : Invariant s) {handler : UsbHandler}
    (husb : s.usb = handler) : handler.Grounded s.registry s.known := by
  rw [← husb]
  exact h.usb

theorem Invariant.announce (h : Invariant s) {device : UsbDevice}
    {found : Option UInt64} (husb : s.usb = .announcing device found) :
    Invariant { s.sendSome (found.map .detached) with
      usb := .retaining device } := by
  have hconnects : forall udid,
      (UsbHandler.retaining device).connects = some udid ->
        s.usb.connects = some udid := by
    intro udid hconnects
    rw [husb]
    exact hconnects
  cases found with
  | none =>
      apply h.withUsb
      · trivial
      · exact hconnects
      · intro id howed
        rw [husb] at howed
        cases howed
  | some id =>
      have howed : s.usb.detaches = some id := by
        rw [husb]
        rfl
      exact h.detachUsb howed trivial hconnects

theorem Invariant.watched_retain (h : Invariant s) {device : UsbDevice}
    (husb : s.usb = .retaining device)
    (hone : forall u, Device.usb u ∈ s.registry -> u.udid = device.udid ->
      u.id = device.id) {l : Listener} (hl : s.listener = some l) :
    Watched (s.registry.filter fun dev =>
        dev.isNetwork || dev.udid ≠ device.udid)
      (UsbTakes { s with
        registry := s.registry.filter fun dev =>
          dev.isNetwork || dev.udid ≠ device.udid
        usb := .inserting device })
      (Awaited { s with usb := .inserting device }) s.Replaced l := by
  apply (h.watched l hl).change
  · intro id _ hget
    rcases Registry.get_isSome_iff.mp hget with ⟨d, hd, hid⟩
    exact Or.inl (Registry.get_isSome_iff.mpr
      ⟨d, List.mem_of_mem_filter hd, hid⟩)
  · intro id _ hpending
    refine Or.inl (hpending.of_usb (fun howed => ?_) rfl rfl)
    rw [husb] at howed
    cases howed
  · intro id _ hclear
    by_cases hid : device.id = id
    · exact Or.inl (Or.inl (congrArg some hid))
    · refine Or.inr (hclear.keep ?_ ?_)
      · intro d hd hdid
        apply List.mem_filter.mpr
        constructor
        · exact hd
        · cases d with
          | network n => rfl
          | usb u =>
              have hudid : u.udid ≠ device.udid := by
                intro hsame
                exact hid ((hone u hd hsame).symm.trans hdid)
              simp [Device.udid, hudid]
      · intro n _ _ htakes
        rcases htakes with ⟨u, hu, hudid⟩ | hconnects
        · exact Or.inl ⟨u, List.mem_of_mem_filter hu, hudid⟩
        · right
          rw [husb]
          exact hconnects
  · exact fun _ hreplaced => hreplaced

theorem Invariant.retain (h : Invariant s) {device : UsbDevice}
    (husb : s.usb = .retaining device)
    (hguard : s.listener = none ∨ forall u, Device.usb u ∈ s.registry ->
      u.udid = device.udid -> u.id = device.id) :
    Invariant { s with
      registry := s.registry.filter fun dev =>
        dev.isNetwork || dev.udid ≠ device.udid
      usb := .inserting device } := by
  constructor
  case coherent =>
      apply h.coherent.of_subset
      intro d hd
      exact List.mem_of_mem_filter hd
  case registered =>
      intro d hd
      exact h.registered (List.mem_of_mem_filter hd)
  case same => exact h.same
  case usb =>
      intro hstill
      rcases hstill with ⟨u, hu, hudid⟩
      have hkept := List.of_mem_filter hu
      simp [hudid, Device.isUsb, Device.udid] at hkept
  case network => exact h.network
  case adds => exact h.adds
  case grounded => exact h.grounded
  case watched =>
      intro l hl
      rcases hguard with hunheard | hone
      · rw [hunheard] at hl
        cases hl
      · exact h.watched_retain husb hone hl

theorem permitsUsb_iff {device : UsbDevice} :
    s.permitsUsb device = true <-> forall d, d ∈ s.known ->
      d.id = device.id -> d.udid = device.udid ∧ d.isUsb = true := by
  unfold permitsUsb
  rw [List.all_eq_true]
  apply forall_congr'
  intro d
  apply imp_congr_right
  intro _
  by_cases hid : d.id = device.id
  · simp [hid, and_comm]
  · simp [hid]

theorem Invariant.watched_insertUsb (h : Invariant s) {device : UsbDevice}
    (husb : s.usb = .inserting device) {l : Listener}
    (hl : s.listener = some l) :
    Watched (Registry.insert s.registry (.usb device))
      (UsbTakes { s.register (.usb device) with usb := .attaching device })
      (Awaited { s.register (.usb device) with usb := .attaching device })
      s.Replaced l := by
  have hnew :
      Device.usb device ∈ Registry.insert s.registry (.usb device) :=
    Registry.mem_insert.mpr (Or.inl rfl)
  apply (h.watched l hl).change
  · intro id _ hget
    rcases Registry.get_isSome_iff.mp hget with ⟨d, hd, rfl⟩
    rcases Registry.mem_insert.mp hd with rfl | ⟨hd, _⟩
    · exact Or.inr ⟨.usb device, hnew, rfl, Or.inl rfl⟩
    · exact Or.inl (Registry.get_isSome_iff.mpr ⟨d, hd, rfl⟩)
  · intro id _ hpending
    by_cases hid : id = device.id
    · exact Or.inr ⟨.usb device, hnew, hid.symm, Or.inl rfl⟩
    · refine Or.inl (hpending.of_usb (fun howed => ?_) rfl rfl)
      rw [husb] at howed
      exact absurd (Option.some.inj howed).symm hid
  · intro id _ hclear
    right
    by_cases hid : id = device.id
    · exact ⟨.usb device, hnew, hid.symm, Or.inl rfl⟩
    · apply hclear.keep
      · intro d hd hdid
        refine Registry.mem_insert.mpr (Or.inr ⟨hd, ?_⟩)
        exact fun hsame => hid (hdid.symm.trans hsame)
      · intro n _ _ htakes
        rcases htakes with ⟨u, hu, hudid⟩ | hconnects
        · rcases Registry.mem_insert.mp hu with hu | ⟨hu, _⟩
          · cases hu
            right
            rw [husb]
            exact congrArg some hudid
          · exact Or.inl ⟨u, hu, hudid⟩
        · cases hconnects
  · exact fun _ hreplaced => hreplaced

theorem Invariant.insertUsb (h : Invariant s) {device : UsbDevice}
    (husb : s.usb = .inserting device)
    (hpermits : s.permitsUsb device = true) :
    Invariant { s.register (.usb device) with usb := .attaching device } := by
  have hsame := permitsUsb_iff.mp hpermits
  have hnone : ¬ s.registry.UsbHas device.udid := h.usb_of_eq husb
  have hsub : s.known ⊆ (s.register (.usb device)).known :=
    List.subset_cons_self _ _
  constructor
  case coherent =>
      apply h.coherent.insert_usb
      intro v hv hudid
      exact hnone ⟨v, hv, hudid⟩
  case registered => exact h.registered_insert _
  case same => exact h.same_cons hsame
  case usb => exact Registry.mem_insert.mpr (Or.inl rfl)
  case network => exact h.network.mono hsub
  case adds => exact fun request old hold => (h.adds request old hold).mono hsub
  case grounded => exact fun l hl => (h.grounded l hl).mono hsub
  case watched => exact fun l hl => h.watched_insertUsb husb hl

theorem Invariant.attachUsb (h : Invariant s) {device : UsbDevice}
    (husb : s.usb = .attaching device) :
    Invariant { s.send (.attached device.id) with usb := .idle } := by
  have hthere : Device.usb device ∈ s.registry := h.usb_of_eq husb
  have hknown : Device.usb device ∈ s.known := h.registered hthere
  have htold : Invariant (s.send (.attached device.id)) := by
    apply h.attach ⟨_, hknown, rfl⟩ (h.not_replaced_usb hknown)
    intro _
    exact Or.inr ⟨.usb device, hthere, rfl, Or.inl rfl⟩
  apply htold.withUsb
  · trivial
  · intro udid hconnects
    cases hconnects
  · intro id howed
    change s.usb.awaits = some id at howed
    rw [husb] at howed
    cases howed

theorem Invariant.lookForHidden (h : Invariant s) {device : UsbDevice}
    (husb : s.usb = .shuttingDown (.usb device)) :
    Invariant { s with
      usb := .reattaching device
        (s.registry.findNetworkIdByUdid device.udid) } := by
  have hknown : Device.usb device ∈ s.known := (h.usb_of_eq husb).right
  refine h.withUsb ⟨hknown, ?_⟩ ?_ ?_
  · intro id hfound
    rcases mem_of_findNetworkIdByUdid hfound with ⟨n, hn, _, hid⟩
    exact ⟨.network n, h.registered hn, hid⟩
  · intro udid hconnects
    cases hconnects
  · intro id howed
    rw [husb] at howed
    exact howed

theorem Invariant.reattach (h : Invariant s) {device : UsbDevice}
    {found : Option UInt64} (husb : s.usb = .reattaching device found)
    (hguard : forall id, found = some id ->
      s.listener = none ∨ s.Showable id) :
    Invariant { s.sendSome (found.map .attached) with
      usb := .detaching device.id } := by
  have hgrounded := h.usb_of_eq husb
  have htold : Invariant (s.sendSome (found.map .attached)) := by
    cases found with
    | none => exact h
    | some id =>
        exact h.attach_showable (hgrounded.right id rfl) (hguard id rfl)
  have hstill : (s.sendSome (found.map .attached)).usb =
      .reattaching device found := by
    cases found <;> exact husb
  have hknown : (s.sendSome (found.map .attached)).known = s.known := by
    cases found <;> rfl
  apply htold.withUsb
  · rw [hknown]
    exact ⟨.usb device, hgrounded.left, rfl⟩
  · intro udid hconnects
    cases hconnects
  · intro id howed
    rw [hstill] at howed
    exact howed

theorem Invariant.usbStep (h : Invariant s) (hguard : s.ExposesOne .usbStep)
    (hstep : s.usbStep = some t) : Invariant t := by
  unfold Exposure.usbStep at hstep
  unfold ExposesOne at hguard
  cases husb : s.usb with
  | idle =>
      rw [husb] at hstep
      cases hstep
  | announcing device found =>
      rw [husb] at hstep
      cases hstep
      exact h.announce husb
  | retaining device =>
      rw [husb] at hstep hguard
      cases hstep
      exact h.retain husb hguard
  | inserting device =>
      rw [husb] at hstep
      rcases Machine.of_enabled_if hstep with ⟨hpermits, hnext⟩
      cases hnext
      exact h.insertUsb husb hpermits
  | attaching device =>
      rw [husb] at hstep
      cases hstep
      exact h.attachUsb husb
  | shuttingDown device =>
      rw [husb] at hstep
      cases device with
      | network n => cases (h.usb_of_eq husb).left
      | usb device =>
          cases hstep
          exact h.lookForHidden husb
  | reattaching device found =>
      rw [husb] at hstep hguard
      cases hstep
      apply h.reattach husb
      intro id hfound
      subst found
      exact hguard
  | detaching id =>
      rw [husb] at hstep
      cases hstep
      have howed : s.usb.detaches = some id := by
        rw [husb]
        rfl
      apply h.detachUsb howed
      · trivial
      · intro udid hconnects
        cases hconnects

/-!
## Steps that make a network device known
-/

theorem permitsNetwork_iff {dev : NetworkDevice} :
    s.permitsNetwork dev = true <-> ¬ Holds s.known dev.id := by
  unfold permitsNetwork Holds
  rw [List.all_eq_true]
  simp

structure Publishes (s t : Exposure) (next : Option Publisher) : Prop where
  invariant : Invariant t
  grounded : forall publisher, next = some publisher ->
    publisher.Grounded t.known
  network : t.network = s.network
  adds : t.adds = s.adds

theorem Invariant.publish (h : Invariant s) {publisher : Publisher}
    {next : Option Publisher} (hgrounded : publisher.Grounded s.known)
    (hguard : s.PublishesOne publisher)
    (hstep : s.publish publisher = some (t, next)) : Publishes s t next := by
  cases publisher with
  | inserting dev =>
      rcases Machine.of_enabled_if hstep with ⟨hpermits, hnext⟩
      cases hnext
      have hnew := permitsNetwork_iff.mp hpermits
      constructor
      case invariant =>
          apply h.registerNetwork hguard
          · intro e he hid
            exact absurd ⟨e, he, hid⟩ hnew
          · exact fun l hl => (h.grounded l hl).not_mayBeLeft hnew
      case grounded =>
          intro publisher hnext
          cases hnext
          exact List.mem_cons_self
      case network => rfl
      case adds => rfl
  | checking dev =>
      cases hstep
      constructor
      case invariant => exact h
      case grounded =>
          intro publisher hnext
          split at hnext
          · cases hnext
          · cases hnext
            exact hgrounded
      case network => rfl
      case adds => rfl
  | attaching dev =>
      cases hstep
      constructor
      case invariant => exact h.attach_showable ⟨_, hgrounded, rfl⟩ hguard
      case grounded => exact fun _ hnext => by cases hnext
      case network => rfl
      case adds => rfl

/-!
## Steps of the network watcher
-/

theorem Invariant.networkConnected (h : Invariant s) {dev : NetworkDevice}
    (hstep : s.networkConnected dev = some t) : Invariant t := by
  unfold Exposure.networkConnected at hstep
  split at hstep
  case h_2 => cases hstep
  rename_i hidle
  split at hstep
  · cases hstep
    exact h
  · cases hstep
    refine h.withNetwork trivial ?_
    intro id howed
    rw [hidle] at howed
    cases howed

theorem Invariant.networkDisconnected (h : Invariant s) {id : UInt64}
    (hstep : s.networkDisconnected id = some t) : Invariant t := by
  unfold Exposure.networkDisconnected at hstep
  split at hstep
  case h_1 =>
      cases hstep
      exact h
  case h_3 => cases hstep
  rename_i dev hidle hget
  cases hstep
  rcases Registry.get_eq_some hget with ⟨hdev, hid⟩
  constructor
  case coherent => exact h.coherent.remove id
  case registered => exact h.registered_remove id
  case same => exact h.same
  case usb => exact h.usb_remove ⟨dev, h.registered hdev, hid⟩
  case network => exact h.registered hdev
  case adds => exact h.adds
  case grounded => exact h.grounded
  case watched =>
      intro l hl
      refine h.watched_remove rfl ?_ ?_ ?_ hl ?_
      · exact fun _ hconnects => hconnects
      · intro other hpending
        refine hpending.of_network (fun howed => ?_) rfl rfl
        rw [hidle] at howed
        cases howed
      · exact fun _ hreplaced => hreplaced
      · intro _
        exact Or.inr (Or.inl (congrArg some hid))

theorem Invariant.conceal (h : Invariant s) {device : Device}
    (hnetwork : s.network = .shuttingDown device)
    (hguard : forall l, s.listener = some l ->
      ¬ l.Left s.registry device.id) :
    Invariant { s with network := .idle } where
  coherent := h.coherent
  registered := h.registered
  same := h.same
  usb := h.usb
  network := trivial
  adds := h.adds
  grounded := h.grounded
  watched := by
    intro l hl
    apply (h.watched l hl).move
    · intro id hleft hpending
      refine hpending.of_network (fun howed => ?_) rfl rfl
      rw [hnetwork] at howed
      cases howed
      exact absurd hleft (hguard l hl)
    · exact fun _ _ hclear => Or.inr hclear
    · exact fun _ hreplaced => hreplaced

theorem Invariant.networkStep (h : Invariant s)
    (hguard : s.ExposesOne .networkStep) (hstep : s.networkStep = some t) :
    Invariant t := by
  unfold Exposure.networkStep at hstep
  unfold ExposesOne at hguard
  have hgrounded := h.network
  cases hnetwork : s.network with
  | idle =>
      rw [hnetwork] at hstep
      cases hstep
  | publishing publisher =>
      rw [hnetwork] at hstep hguard hgrounded
      rcases Option.map_eq_some_iff.mp hstep with ⟨⟨u, next⟩, hpublish, rfl⟩
      have hpublished := h.publish hgrounded hguard hpublish
      apply hpublished.invariant.withNetwork
      · cases next with
        | none => trivial
        | some publisher => exact hpublished.grounded publisher rfl
      · intro id howed
        rw [hpublished.network, hnetwork] at howed
        cases howed
  | shuttingDown device =>
      rw [hnetwork] at hstep hguard hgrounded
      cases hstep
      by_cases hhas : s.registry.hasUsbWithUdid device.udid = true
      · rw [if_pos hhas]
        apply h.conceal hnetwork
        intro l hl
        exact hguard l hl (Registry.hasUsbWithUdid_iff.mp hhas)
      · rw [if_neg hhas]
        refine h.withNetwork ⟨device, hgrounded, rfl⟩ ?_
        intro id howed
        rw [hnetwork] at howed
        exact howed
  | detaching id =>
      rw [hnetwork] at hstep
      cases hstep
      exact h.detachNetwork (by rw [hnetwork]; rfl) trivial

end Exposure

end Watcher
end Rusbmux
