import Rusbmux.Watcher.ListenerQueue

/-!
# What holds while handlers interleave

What a step of a handler does to a listener depends on what the other handlers
are in the middle of.  The invariant says that a listener is left with devices
that are clear, which is to say registered and hidden by no USB device that is
registered or on its way, or that a handler accounts for: it is still going to
send the detachment, or to register a USB device again.
-/

namespace Rusbmux
namespace Watcher

open Foundation
open Exposure

/-!
## What handlers know of
-/

def HoldsNetwork (known : List Device) (id : UInt64) : Prop :=
  exists n, Device.network n ∈ known ∧ n.id = id

def UsbHandler.Grounded (R : Registry) (known : List Device) :
    UsbHandler -> Prop
  | .idle | .retaining _ => True
  | .announcing _ found => forall id, found = some id -> Holds known id
  | .inserting device => ¬ R.UsbHas device.udid
  | .attaching device => Device.usb device ∈ R
  | .shuttingDown device => device.isUsb = true ∧ device ∈ known
  | .reattaching device found =>
      Device.usb device ∈ known ∧ forall id, found = some id -> Holds known id
  | .detaching id => Holds known id

def Publisher.Grounded (known : List Device) : Publisher -> Prop
  | .inserting _ => True
  | .checking dev | .attaching dev => Device.network dev ∈ known

def NetworkHandler.Grounded (known : List Device) : NetworkHandler -> Prop
  | .idle => True
  | .publishing publisher => publisher.Grounded known
  | .shuttingDown device => device ∈ known
  | .detaching id => Holds known id

def AddHandler.Grounded (known : List Device) : AddHandler -> Prop
  | .detaching _ old | .removing _ old => HoldsNetwork known old
  | .opening _ old =>
      forall d, old = some d -> exists n, d = .network n ∧ d ∈ known
  | .restoring old => exists n, old = .network n ∧ old ∈ known
  | .publishing publisher => publisher.Grounded known
  | .done => True

structure Listener.Grounded (known : List Device) (l : Listener) : Prop where
  held : forall d, d ∈ l.held -> d ∈ known
  queue : forall event, event ∈ l.queue -> Holds known event.deviceId

section Mono

variable {known more : List Device}

theorem Exposure.Holds.mono (hsub : known ⊆ more) {id : UInt64}
    (h : Holds known id) : Holds more id := by
  rcases h with ⟨d, hd, hid⟩
  exact ⟨d, hsub hd, hid⟩

theorem Publisher.Grounded.mono (hsub : known ⊆ more) {p : Publisher}
    (h : p.Grounded known) : p.Grounded more := by
  cases p with
  | inserting dev => trivial
  | checking dev | attaching dev => exact hsub h

theorem NetworkHandler.Grounded.mono (hsub : known ⊆ more)
    {handler : NetworkHandler} (h : handler.Grounded known) :
    handler.Grounded more := by
  cases handler with
  | idle => trivial
  | publishing p => exact Publisher.Grounded.mono hsub h
  | shuttingDown device => exact hsub h
  | detaching id => exact Holds.mono hsub h

theorem AddHandler.Grounded.mono (hsub : known ⊆ more) {handler : AddHandler}
    (h : handler.Grounded known) : handler.Grounded more := by
  cases handler with
  | detaching udid old | removing udid old =>
      rcases h with ⟨n, hn, hid⟩
      exact ⟨n, hsub hn, hid⟩
  | opening udid old =>
      intro d hd
      rcases h d hd with ⟨n, hn, hknown⟩
      exact ⟨n, hn, hsub hknown⟩
  | restoring old =>
      rcases h with ⟨n, hn, hknown⟩
      exact ⟨n, hn, hsub hknown⟩
  | publishing p => exact Publisher.Grounded.mono hsub h
  | done => trivial

theorem UsbHandler.Grounded.mono {R S : Registry} (hsub : known ⊆ more)
    (hhas : forall udid, S.UsbHas udid -> R.UsbHas udid)
    (hthere : forall u, Device.usb u ∈ R -> Device.usb u ∈ S)
    {handler : UsbHandler} (h : handler.Grounded R known) :
    handler.Grounded S more := by
  cases handler with
  | idle | retaining _ => trivial
  | announcing device found =>
      intro id hid
      exact Holds.mono hsub (h id hid)
  | inserting device =>
      intro hS
      exact h (hhas _ hS)
  | attaching device => exact hthere device h
  | shuttingDown device => exact ⟨h.left, hsub h.right⟩
  | reattaching device found =>
      refine ⟨hsub h.left, ?_⟩
      intro id hid
      exact Holds.mono hsub (h.right id hid)
  | detaching id => exact Holds.mono hsub h

theorem Listener.Grounded.mono (hsub : known ⊆ more) {l : Listener}
    (h : l.Grounded known) : l.Grounded more where
  held d hd := hsub (h.held d hd)
  queue event hevent := Holds.mono hsub (h.queue event hevent)

end Mono

theorem UsbHandler.Grounded.owed {R : Registry} {known : List Device}
    {handler : UsbHandler} (h : handler.Grounded R known) {id : UInt64}
    (howed : handler.detaches = some id) : Holds known id := by
  cases handler with
  | idle | retaining _ | inserting _ | attaching _ => cases howed
  | announcing device found => exact h id howed
  | shuttingDown device =>
      cases howed
      exact ⟨device, h.right, rfl⟩
  | reattaching device found =>
      cases howed
      exact ⟨.usb device, h.left, rfl⟩
  | detaching old =>
      cases howed
      exact h

theorem NetworkHandler.Grounded.owed {known : List Device}
    {handler : NetworkHandler} (h : handler.Grounded known) {id : UInt64}
    (howed : handler.detaches = some id) : Holds known id := by
  cases handler with
  | idle | publishing _ => cases howed
  | shuttingDown device =>
      cases howed
      exact ⟨device, h, rfl⟩
  | detaching old =>
      cases howed
      exact h

theorem AddHandler.Grounded.replaced {known : List Device}
    {handler : AddHandler} (h : handler.Grounded known) {id : UInt64}
    (hreplaces : handler.replaces = some id) : HoldsNetwork known id := by
  cases handler with
  | detaching _ _ | publishing _ | done => cases hreplaces
  | removing udid old =>
      cases hreplaces
      exact h
  | opening udid old =>
      rcases Option.map_eq_some_iff.mp hreplaces with ⟨d, rfl, hid⟩
      rcases h d rfl with ⟨n, rfl, hn⟩
      exact ⟨n, hn, hid⟩
  | restoring old =>
      cases hreplaces
      rcases h with ⟨n, rfl, hn⟩
      exact ⟨n, hn, rfl⟩

theorem Listener.Grounded.push {known : List Device} {l : Listener}
    (h : l.Grounded known) {event : DeviceEvent}
    (hevent : Holds known event.deviceId) : (l.push event).Grounded known where
  held := h.held
  queue e he := by
    rcases List.mem_append.mp he with he | he
    · exact h.queue e he
    · rw [List.mem_singleton.mp he]
      exact hevent

theorem Listener.Grounded.not_mayBeLeft {known : List Device} {l : Listener}
    (h : l.Grounded known) {id : UInt64} (hid : ¬ Holds known id) :
    ¬ l.MayBeLeft id := by
  intro hleft
  have hheld : holdsId l.held id = false := by
    apply Bool.eq_false_iff.mpr
    intro hholds
    rcases holdsId_iff.mp hholds with ⟨d, hd, hdid⟩
    exact hid ⟨d, h.held d hd, hdid⟩
  unfold Listener.MayBeLeft at hleft
  rw [hheld, keeps_false_of_unnamed] at hleft
  · cases hleft
  · intro event hevent heq
    apply hid
    have hknown := h.queue event hevent
    rw [heq] at hknown
    exact hknown

/-!
## What a listing shows
-/

theorem Registry.Coherent.onePerUdid {R : Registry} (h : R.Coherent) :
    OnePerUdid (R.filter fun dev => !R.isShadowed dev) := by
  have hmixed : forall u n, Device.usb u ∈ R -> u.udid = n.udid ->
      R.isShadowed (.network n) = true := by
    intro u n hu hudid
    exact Registry.hasUsbWithUdid_iff.mpr ⟨u, hu, hudid⟩
  intro d e hd he hudid
  rcases List.mem_filter.mp hd with ⟨hd, hdshown⟩
  rcases List.mem_filter.mp he with ⟨he, heshown⟩
  cases d with
  | usb u =>
      cases e with
      | usb v => rw [h.usb_unique u v hd he hudid]
      | network n =>
          rw [hmixed u n hd hudid] at heshown
          cases heshown
  | network n =>
      cases e with
      | usb v =>
          rw [hmixed v n he hudid.symm] at hdshown
          cases hdshown
      | network m => rw [h.network_unique n m hd he hudid]

theorem Registry.Clear.listed {s : Exposure} {id : UInt64}
    (h : s.registry.Clear s.UsbTakes id) :
    exists d, d ∈ (s.registry.filter fun dev => !s.registry.isShadowed dev) ∧
      d.id = id := by
  rcases h with ⟨d, hd, hid, hshown⟩
  refine ⟨d, List.mem_filter.mpr ⟨hd, ?_⟩, hid⟩
  cases d with
  | usb u => rfl
  | network n =>
      rcases hshown with husb | hfree
      · cases husb
      · have hnone : ¬ s.registry.UsbHas n.udid := by
          intro hhas
          exact hfree (Or.inl hhas)
        rw [← Registry.hasUsbWithUdid_iff] at hnone
        simpa [Registry.isShadowed] using hnone

/--
The id that the USB watcher accounts for: it owes its detachment, or it is going
to register it.
-/
def UsbHandler.awaits : UsbHandler -> Option UInt64
  | .inserting device => some device.id
  | handler => handler.detaches

theorem UsbHandler.awaits_of_detaches {handler : UsbHandler} {id : UInt64}
    (h : handler.detaches = some id) : handler.awaits = some id := by
  cases handler with
  | inserting device => cases h
  | idle | announcing _ _ | retaining _ | attaching _ | shuttingDown _
  | reattaching _ _ | detaching _ => exact h

namespace Exposure

/-!
## The invariant
-/

def Awaited (s : Exposure) (id : UInt64) : Prop :=
  s.usb.awaits = some id ∨ s.network.detaches = some id ∨
    exists request handler, s.adds request = some handler ∧
      handler.detaches = some id

theorem Pending.awaited {s : Exposure} {id : UInt64} (h : s.Pending id) :
    s.Awaited id :=
  h.imp_left UsbHandler.awaits_of_detaches

structure Invariant (s : Exposure) : Prop where
  coherent : s.registry.Coherent
  registered : s.registry ⊆ s.known
  same : forall d e, d ∈ s.known -> e ∈ s.known -> d.id = e.id ->
    d.udid = e.udid ∧ d.isUsb = e.isUsb
  usb : s.usb.Grounded s.registry s.known
  network : s.network.Grounded s.known
  adds : forall request handler, s.adds request = some handler ->
    handler.Grounded s.known
  grounded : forall l, s.listener = some l -> l.Grounded s.known
  watched : forall l, s.listener = some l ->
    Watched s.registry s.UsbTakes s.Awaited s.Replaced l

theorem Invariant.init : Invariant {} where
  coherent := Registry.Coherent.nil
  registered := fun _ hd => hd
  same := fun _ _ hd => by cases hd
  usb := trivial
  network := trivial
  adds := fun _ _ h => by cases h
  grounded := fun _ h => by cases h
  watched := fun _ h => by cases h

/-!
## Handlers that move
-/

variable {s t : Exposure}

theorem Awaited.of_handlers {id : UInt64} (h : s.Awaited id)
    (husb : s.usb.awaits = some id -> t.usb.awaits = some id)
    (hnetwork : s.network.detaches = some id -> t.network.detaches = some id)
    (hadds : forall request handler, s.adds request = some handler ->
      handler.detaches = some id ->
        exists other, t.adds request = some other ∧
          other.detaches = some id) : t.Awaited id := by
  rcases h with h | h | ⟨request, handler, hadd, h⟩
  · exact Or.inl (husb h)
  · exact Or.inr (Or.inl (hnetwork h))
  · exact Or.inr (Or.inr ⟨request, hadds request handler hadd h⟩)

theorem Awaited.of_usb {id : UInt64} (h : s.Awaited id)
    (husb : s.usb.awaits = some id -> t.usb.awaits = some id)
    (hnetwork : t.network = s.network) (hadds : t.adds = s.adds) :
    t.Awaited id := by
  apply h.of_handlers husb
  · intro howed
    rw [hnetwork]
    exact howed
  · intro request handler hadd howed
    rw [hadds]
    exact ⟨handler, hadd, howed⟩

theorem Awaited.of_network {id : UInt64} (h : s.Awaited id)
    (hnetwork : s.network.detaches = some id -> t.network.detaches = some id)
    (husb : t.usb = s.usb) (hadds : t.adds = s.adds) : t.Awaited id := by
  refine h.of_handlers ?_ hnetwork ?_
  · intro howed
    rw [husb]
    exact howed
  · intro request handler hadd howed
    rw [hadds]
    exact ⟨handler, hadd, howed⟩

theorem adds_setAdd_self (s : Exposure) (request : Nat) (handler : AddHandler) :
    (s.setAdd request handler).adds request = some handler := by
  unfold setAdd
  exact Function.update_self request (some handler) s.adds

theorem adds_setAdd_of_ne {request other : Nat} (hne : other ≠ request)
    (s : Exposure) (handler : AddHandler) :
    (s.setAdd request handler).adds other = s.adds other := by
  unfold setAdd
  exact Function.update_of_ne hne (some handler) s.adds

theorem adds_setAdd_eq_some {request other : Nat} {handler old : AddHandler}
    (h : (s.setAdd request handler).adds other = some old) :
    (other = request ∧ old = handler) ∨
      (other ≠ request ∧ s.adds other = some old) :=
  of_update_eq_some h

theorem Awaited.setAdd {id : UInt64} {request : Nat} {handler : AddHandler}
    (h : s.Awaited id)
    (hadd : forall old, s.adds request = some old ->
      old.detaches = some id -> handler.detaches = some id) :
    (s.setAdd request handler).Awaited id := by
  apply h.of_handlers
  · exact fun hd => hd
  · exact fun hd => hd
  · intro other old hold hd
    by_cases hsame : other = request
    · subst other
      exact ⟨handler, adds_setAdd_self s request handler, hadd old hold hd⟩
    · exact ⟨old, (adds_setAdd_of_ne hsame s handler).trans hold, hd⟩

theorem replaced_setAdd {id : UInt64} {request : Nat} {handler : AddHandler}
    (h : (s.setAdd request handler).Replaced id) :
    s.Replaced id ∨ handler.replaces = some id := by
  rcases h with ⟨other, old, hold, hreplaces⟩
  rcases adds_setAdd_eq_some hold with ⟨_, rfl⟩ | ⟨_, hstill⟩
  · exact Or.inr hreplaces
  · exact Or.inl ⟨other, old, hstill, hreplaces⟩

theorem adds_setAdd {request : Nat} {handler : AddHandler}
    {Q : AddHandler -> Prop}
    (h : forall other old, s.adds other = some old -> Q old)
    (hnew : Q handler) :
    forall other old, (s.setAdd request handler).adds other = some old ->
      Q old := by
  intro other old hold
  rcases adds_setAdd_eq_some hold with ⟨_, rfl⟩ | ⟨_, hstill⟩
  · exact hnew
  · exact h other old hstill

theorem listener_send {event : DeviceEvent} {Q : Listener -> Prop}
    (h : forall l, s.listener = some l -> Q (l.push event)) :
    forall l, (s.send event).listener = some l -> Q l := by
  intro l hl
  cases hlistener : s.listener with
  | none =>
      simp [send, hlistener] at hl
  | some old =>
      have heq : old.push event = l := by
        simpa [send, hlistener, Listener.push] using hl
      exact heq ▸ h old hlistener

theorem Invariant.withUsb (h : Invariant s) {handler : UsbHandler}
    (hgrounded : handler.Grounded s.registry s.known)
    (hconnects : forall udid, handler.connects = some udid ->
      s.usb.connects = some udid)
    (hdetaches : forall id, s.usb.awaits = some id ->
      handler.awaits = some id) : Invariant { s with usb := handler } where
  coherent := h.coherent
  registered := h.registered
  same := h.same
  usb := hgrounded
  network := h.network
  adds := h.adds
  grounded := h.grounded
  watched := by
    intro l hl
    apply (h.watched l hl).move
    · intro id _ hpending
      exact hpending.of_usb (hdetaches id) rfl rfl
    · intro id _ hclear
      rcases hclear with ⟨d, hd, hid, hshown⟩
      refine Or.inr ⟨d, hd, hid, hshown.imp_right ?_⟩
      intro htakes hnew
      exact htakes (hnew.imp_right (hconnects d.udid))
    · exact fun _ hreplaced => hreplaced

theorem Invariant.withNetwork (h : Invariant s) {handler : NetworkHandler}
    (hgrounded : handler.Grounded s.known)
    (hdetaches : forall id, s.network.detaches = some id ->
      handler.detaches = some id) :
    Invariant { s with network := handler } where
  coherent := h.coherent
  registered := h.registered
  same := h.same
  usb := h.usb
  network := hgrounded
  adds := h.adds
  grounded := h.grounded
  watched := by
    intro l hl
    apply (h.watched l hl).move
    · intro id _ hpending
      exact hpending.of_network (hdetaches id) rfl rfl
    · exact fun _ _ hclear => Or.inr hclear
    · exact fun _ hreplaced => hreplaced

theorem Invariant.setAdd (h : Invariant s) {request : Nat}
    {handler : AddHandler} (hgrounded : handler.Grounded s.known)
    (hdetaches : forall old, s.adds request = some old -> forall id,
      old.detaches = some id -> handler.detaches = some id)
    (hreplaces : forall id, handler.replaces = some id -> s.Replaced id) :
    Invariant (s.setAdd request handler) where
  coherent := h.coherent
  registered := h.registered
  same := h.same
  usb := h.usb
  network := h.network
  adds := adds_setAdd h.adds hgrounded
  grounded := h.grounded
  watched := by
    intro l hl
    apply (h.watched l hl).move
    · intro id _ hpending
      exact hpending.setAdd fun old hold => hdetaches old hold id
    · exact fun _ _ hclear => Or.inr hclear
    · intro id hreplaced
      rcases replaced_setAdd hreplaced with hreplaced | hnew
      · exact hreplaced
      · exact hreplaces id hnew

theorem Invariant.attach (h : Invariant s) {id : UInt64}
    (hknown : Holds s.known id) (hreplaced : ¬ s.Replaced id)
    (hshown : (s.registry.get id).isSome = true ->
      s.Awaited id ∨ s.registry.Clear s.UsbTakes id) :
    Invariant (s.send (.attached id)) where
  coherent := h.coherent
  registered := h.registered
  same := h.same
  usb := h.usb
  network := h.network
  adds := h.adds
  grounded := listener_send fun l hl => (h.grounded l hl).push hknown
  watched := listener_send fun l hl => (h.watched l hl).attach hreplaced hshown

theorem send_of_unheard (h : s.listener = none) (event : DeviceEvent) :
    s.send event = s := by
  unfold send
  rw [h]
  cases s
  subst h
  rfl

theorem Showable.shown {id : UInt64} (h : s.Showable id)
    (hget : (s.registry.get id).isSome = true) :
    s.Awaited id ∨ s.registry.Clear s.UsbTakes id := by
  rcases Option.isSome_iff_exists.mp hget with ⟨d, hd⟩
  rcases Registry.get_eq_some hd with ⟨hd, hid⟩
  cases d with
  | usb u => exact Or.inr ⟨.usb u, hd, hid, Or.inl rfl⟩
  | network n =>
      by_cases htakes : s.UsbTakes n.udid
      · exact Or.inl (h.right n hd hid htakes).awaited
      · exact Or.inr ⟨.network n, hd, hid, Or.inr htakes⟩

theorem Invariant.attach_showable (h : Invariant s) {id : UInt64}
    (hknown : Holds s.known id)
    (hshowable : s.listener = none ∨ s.Showable id) :
    Invariant (s.send (.attached id)) := by
  rcases hshowable with hnone | hshowable
  · rw [send_of_unheard hnone]
    exact h
  · exact h.attach hknown hshowable.left hshowable.shown

end Exposure

end Watcher
end Rusbmux
