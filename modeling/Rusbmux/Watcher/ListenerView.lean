import Rusbmux.Foundation.Machine
import Rusbmux.Watcher.RegistryView

/-!
# What listening clients see

A client that listens starts from the devices a listing shows and follows the
broadcast events.  Its view stays the listing exactly as long as the operations
that run while it listens announce what they change; `Announced` says which
operations do.
-/

namespace Rusbmux
namespace Watcher

open Foundation
open DeviceEvent

/-- One registry operation, handled to completion. -/
inductive Operation where
  | usbConnected (device : UsbDevice)
  | usbDisconnected (id : UInt64)
  | networkConnected (device : NetworkDevice)
  | networkDisconnected (id : UInt64)
  | addDevice (pairing : Except RusbmuxError Unit) (device : NetworkDevice)
      (force : Bool) (opened : Except RusbmuxError Unit)

namespace Registry

def handle (R : Registry) : Operation -> Effect
  | .usbConnected device => R.usbConnected device
  | .usbDisconnected id => R.usbDisconnected id
  | .networkConnected device => R.networkConnected device
  | .networkDisconnected id => R.networkDisconnected id
  | .addDevice pairing device force opened =>
      (R.addDevice pairing device force opened).fst

/--
What the id counter promises: a network device comes under an id that no
registered device has, and it leaves under an id that no USB device has.
-/
def permits (R : Registry) : Operation -> Bool
  | .networkConnected device | .addDevice _ device _ _ =>
      R.all fun dev => dev.id ≠ device.id
  | .networkDisconnected id => R.all fun dev => !dev.isUsb || dev.id ≠ id
  | .usbConnected _ | .usbDisconnected _ => true

def Announced (R : Registry) : Operation -> Prop
  | .usbConnected device => UsbAnnounced R device
  | .addDevice pairing device force opened =>
      pairing = .ok () -> force = true -> (exists err, opened = .error err) ->
        forall n, Device.network n ∈ R -> n.udid = device.udid ->
          R.UsbHas device.udid
  | .usbDisconnected _ | .networkConnected _ | .networkDisconnected _ => True

variable {R : Registry}

theorem coherent_handle (h : Coherent R) (operation : Operation) :
    Coherent (R.handle operation).fst := by
  cases operation with
  | usbConnected device => exact coherent_usbConnected h device
  | usbDisconnected id => exact coherent_usbDisconnected h id
  | networkConnected device => exact coherent_networkConnected h device
  | networkDisconnected id => exact coherent_networkDisconnected h id
  | addDevice pairing device force opened =>
      cases pairing with
      | error err => exact h
      | ok _ => exact coherent_addPaired h device force opened

theorem permits_kind {id : UInt64}
    (hpermits : R.permits (.networkDisconnected id) = true) :
    forall u, Device.usb u ∈ R -> u.id ≠ id := by
  intro u hu
  have hall := List.all_eq_true.mp hpermits _ hu
  exact of_decide_eq_true hall

theorem replay_handle_iff (h : Coherent R) {operation : Operation}
    (hpermits : R.permits operation = true) :
    DeviceEvent.replay R.visible (R.handle operation).snd =
        (R.handle operation).fst.visible <->
      R.Announced operation := by
  cases operation with
  | usbConnected device =>
      exact ⟨UsbAnnounced.of_replay h, UsbAnnounced.replay_eq h⟩
  | usbDisconnected id =>
      exact iff_of_true (replay_usbDisconnected h id) trivial
  | networkConnected device =>
      have hfresh : forall d, d ∈ R -> d.id ≠ device.id := by
        simpa [permits] using hpermits
      exact iff_of_true (replay_networkConnected hfresh) trivial
  | networkDisconnected id =>
      exact iff_of_true
        (replay_networkDisconnected h (permits_kind hpermits)) trivial
  | addDevice pairing device force opened =>
      have hfresh : forall d, d ∈ R -> d.id ≠ device.id := by
        simpa [permits] using hpermits
      cases pairing with
      | error err =>
          exact iff_of_true rfl fun hpairing => by cases hpairing
      | ok _ =>
          apply (replay_addPaired_iff h hfresh force opened).trans
          constructor
          · intro hannounced _
            exact hannounced
          · intro hannounced
            exact hannounced rfl

end Registry

structure Daemon where
  registry : Registry := []
  views : List (Finset UInt64) := []

namespace Daemon

inductive Action where
  | listen
  | operate (operation : Operation)

def step : Machine Daemon Action
  | s, .listen => some { s with views := s.registry.visible :: s.views }
  | s, .operate operation =>
      if s.registry.permits operation then
        some
          { registry := (s.registry.handle operation).fst
            views := s.views.map fun view =>
              DeviceEvent.replay view (s.registry.handle operation).snd }
      else
        none

/-- Every listening client sees what a listing shows. -/
def ViewsAgree (s : Daemon) : Prop :=
  forall view, view ∈ s.views -> view = s.registry.visible

/-- Nobody listens, or the operation announces every change of the listing. -/
def AnnouncedIfHeard (s : Daemon) : Action -> Prop
  | .listen => True
  | .operate operation => s.views = [] ∨ s.registry.Announced operation

theorem viewsAgree_step {s t : Daemon} {a : Action}
    (hcoherent : s.registry.Coherent) (hviews : s.ViewsAgree)
    (hstep : step s a = some t) :
    t.registry.Coherent ∧ (t.ViewsAgree <-> s.AnnouncedIfHeard a) := by
  cases a with
  | listen =>
      cases hstep
      refine ⟨hcoherent, iff_of_true ?_ trivial⟩
      intro view hview
      rcases List.mem_cons.mp hview with rfl | hview
      · rfl
      · exact hviews view hview
  | operate operation =>
      have hpermits : s.registry.permits operation = true := by
        by_contra hnot
        rw [step, if_neg hnot] at hstep
        cases hstep
      rw [step, if_pos hpermits] at hstep
      cases hstep
      refine ⟨Registry.coherent_handle hcoherent operation, ?_⟩
      have hreplay := Registry.replay_handle_iff hcoherent hpermits
      unfold ViewsAgree AnnouncedIfHeard
      cases hempty : s.views with
      | nil => simp
      | cons first rest =>
          simp only [reduceCtorEq, false_or]
          rw [← hreplay]
          constructor
          · intro hagree
            have hfirst : first = s.registry.visible :=
              hviews first (by rw [hempty]; exact List.mem_cons_self)
            have hnext := hagree _ (List.mem_map_of_mem List.mem_cons_self)
            rw [hfirst] at hnext
            exact hnext
          · intro heq view hview
            rcases List.mem_map.mp hview with ⟨old, hold, rfl⟩
            rw [hviews old (by rw [hempty]; exact hold)]
            exact heq

/--
From an empty registry, every client that listens sees the listing after every
operation, exactly if every operation that a client hears announces its changes.
-/
theorem viewsAgree_throughout_iff (actions : List Action) :
    Machine.Throughout step ViewsAgree {} actions <->
      Machine.Guarded step AnnouncedIfHeard {} actions := by
  refine Machine.throughout_iff_guarded
    (J := fun s => s.registry.Coherent ∧ s.ViewsAgree) ?_ ?_ ?_ ?_ actions
  · intro s hs
    exact hs.right
  · intro s a t hs hstep hguard
    rcases viewsAgree_step hs.left hs.right hstep with ⟨hcoherent, hviews⟩
    exact ⟨hcoherent, hviews.mpr hguard⟩
  · intro s a t hs hstep hguard hviews
    exact hguard ((viewsAgree_step hs.left hs.right hstep).right.mp hviews)
  · exact ⟨Registry.Coherent.nil, fun _ hview => by cases hview⟩

/--
A device that connects twice over USB, under two ids, stays attached under the
first one for every client that heard both.
-/
theorem not_viewsAgree_reconnected :
    ¬ forall actions, Machine.Throughout step ViewsAgree {} actions := by
  intro h
  have hagree := (h
    [.listen, .operate (.usbConnected { id := 1, udid := "00008101" }),
      .operate (.usbConnected { id := 2, udid := "00008101" })]).last rfl
  have hview := hagree {1, 2} (by decide)
  revert hview
  decide

end Daemon

end Watcher
end Rusbmux
