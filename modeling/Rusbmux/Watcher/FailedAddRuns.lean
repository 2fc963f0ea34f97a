import Rusbmux.Watcher.FailedAddParallel

/-!
# What a failed addition leaves behind

From the start of the wait to its end, and then the old device is put back: when
the registry and the held ids are as if the call had never been made.
-/

namespace Rusbmux
namespace Watcher

/-!
## The whole wait
-/

namespace Wait

variable {old : NetworkDevice} {w : Wait} {s : Scene}

theorem next_departed (h : w.departed = true) (event : WatcherEvent) :
    (w.next old s event).departed = true := by
  have hleave : forall id, (w.leave old s id).departed = true := by
    intro id
    unfold leave
    split
    · rfl
    · split
      · split <;> exact h
      · split
        · split <;> exact h
        · exact h
  cases event with
  | usbConnected device =>
      show (if _ then _ else _ : Wait).departed = true
      split <;> exact h
  | usbDisconnected id =>
      rw [next_usbDisconnected]
      split
      · show (if _ then _ else _ : Wait).departed = true
        split <;> exact h
      · exact hleave id
      · exact hleave id
  | networkConnected device =>
      rw [next_networkConnected]
      split <;> exact h
  | networkDisconnected id => exact hleave id

theorem next_stays (h : w.departed = false) {event : WatcherEvent}
    (hstays : ¬ Scene.Leaves event old.id) :
    (w.next old s event).departed = false := by
  have hleave : forall id, id ≠ old.id ->
      (w.leave old s id).departed = false := by
    intro id hne
    unfold leave
    rw [if_neg hne]
    split
    · split <;> exact h
    · split
      · split <;> exact h
      · exact h
  cases event with
  | usbConnected device =>
      show (if _ then _ else _ : Wait).departed = false
      split <;> exact h
  | usbDisconnected id =>
      have hne : id ≠ old.id := by
        rintro rfl
        exact hstays (Or.inl rfl)
      rw [next_usbDisconnected]
      split
      · show (if _ then _ else _ : Wait).departed = false
        split <;> exact h
      · exact hleave id hne
      · exact hleave id hne
  | networkConnected device =>
      rw [next_networkConnected]
      split <;> exact h
  | networkDisconnected id =>
      apply hleave
      rintro rfl
      exact hstays (Or.inr rfl)

end Wait

namespace Scene

variable {s idle called : Scene} {old : NetworkDevice} {w : Wait}
variable {events : List WatcherEvent}

theorem departed_run (hw : w.departed = true)
    (hgone : forall d, d ∈ s.registry -> d.id ≠ old.id)
    (husb : old.id ∉ events.filterMap WatcherEvent.usbId)
    (hnetwork : old.id ∉ events.filterMap WatcherEvent.networkId) :
    (w.run old s events).departed = true ∧
      forall d, d ∈ (s.handleAll events).registry -> d.id ≠ old.id := by
  induction events generalizing s w with
  | nil => exact ⟨hw, hgone⟩
  | cons event rest ih =>
      apply ih (Wait.next_departed hw event)
      · intro d hd hid
        rcases Registry.mem_handle hd with hd | ⟨u, rfl, rfl⟩ | ⟨n, rfl, rfl⟩
        · exact hgone d hd hid
        · exact husb (Arrivals.mem_filterMap_head (congrArg some hid))
        · exact hnetwork (Arrivals.mem_filterMap_head (congrArg some hid))
      · exact fun hid => husb (Arrivals.mem_filterMap_tail hid)
      · exact fun hid => hnetwork (Arrivals.mem_filterMap_tail hid)

theorem parallel_run (h : Parallel old w idle called)
    (hw : w.departed = false) (hidle : idle.Arrivals events)
    (hcalled : called.Arrivals events) :
    let last := w.run old idle events
    last.departed = false ∧
        Parallel old last (idle.handleAll events) (called.handleAll events) ∨
      last.departed = true ∧
        forall d, d ∈ (idle.handleAll events).registry -> d.id ≠ old.id := by
  induction events generalizing idle called w with
  | nil => exact Or.inl ⟨hw, h⟩
  | cons event rest ih =>
      by_cases hleaves : Leaves event old.id
      · refine Or.inr ?_
        rcases h.departs hleaves with ⟨hdeparted, hgone⟩
        apply departed_run hdeparted hgone
        · intro hid
          exact hidle.apart old.id (Arrivals.mem_filterMap_tail hid) old
            h.old_mem rfl
        · intro hid
          exact (hidle.unused old.id (Arrivals.mem_filterMap_tail hid)).left.left
            _ h.old_mem rfl
      · exact ih (h.next hidle hcalled hleaves) (Wait.next_stays hw hleaves)
          hidle.tail hcalled.tail

theorem parallel_start (h : s.registry.Keyed)
    (hfirst : s.registry.findNetworkByUdid old.udid = some (.network old)) :
    Parallel old (Wait.start s old) s (s.takeOut (.network old)) where
  keyed := h
  keyed_called := h.remove old.id
  first := hfirst
  registry := rfl
  newcomer m hm := by
    cases hm
  own n _ _ := Finset.notMem_empty n.id
  held := (decide_eq_true_iff).symm
  views := Differ.start old.id s.view

theorem arrivals_takeOut (h : s.Arrivals events) (d : Device) :
    (s.takeOut d).Arrivals events where
  distinct := h.distinct
  unused id hid := by
    rcases h.unused id hid with ⟨⟨hregistry, hview⟩, husb⟩
    refine ⟨⟨?_, ?_⟩, husb⟩
    · intro other hother
      exact hregistry other (Registry.mem_remove.mp hother).left
    · exact fun hheld => hview (Finset.mem_of_mem_erase hheld)
  apart id hid n hn := h.apart id hid n (Registry.mem_remove.mp hn).left
  kinds id hid := by
    rcases h.kinds id hid with ⟨hlater, hkind⟩
    exact ⟨hlater, fun u hu => hkind u (Registry.mem_remove.mp hu).left⟩

theorem restored_same_iff (h : Parallel old w idle called)
    (hw : w.departed = false) :
    Same { called with registry := called.registry.insert (.network old) }
        idle <->
      w.Harmless := by
  have hmem : forall d, d ∈ called.registry.insert (.network old) <->
      d ∈ idle.registry ∨ exists m, w.newcomer = some m ∧ d = .network m := by
    intro d
    rw [Registry.mem_insert, h.mem_called]
    constructor
    · intro hd
      rcases hd with rfl | ⟨⟨hd, _⟩ | hnew, _⟩
      · exact Or.inl h.old_mem
      · exact Or.inl hd
      · exact Or.inr hnew
    · intro hd
      by_cases hid : d.id = old.id
      · refine Or.inl ?_
        rcases hd with hd | ⟨m, hm, rfl⟩
        · exact h.keyed _ _ hd h.old_mem hid
        · exact absurd hid (h.newcomer_ne_old hm)
      · exact Or.inr ⟨hd.imp_left fun hd => ⟨hd, hid⟩, hid⟩
  have hregistry : (forall d, d ∈ called.registry.insert (.network old) <->
      d ∈ idle.registry) <-> w.newcomer = none := by
    simp only [hmem]
    constructor
    · intro hsame
      cases hm : w.newcomer with
      | none => rfl
      | some m =>
          have hidle := (hsame (.network m)).mp (Or.inr ⟨m, hm, rfl⟩)
          exact absurd rfl ((h.newcomer m hm).unused.left _ hidle)
    · intro hnone d
      apply or_iff_left
      rintro ⟨m, hm, _⟩
      cases hnone.symm.trans hm
  unfold Same Wait.Harmless
  rw [hregistry, h.views.same_iff, h.held, Bool.not_eq_true]
  exact (and_iff_right hw).symm

/--
A forced addition that fails leaves the registry and what a client holds as the
watchers' events alone do, exactly if no network device with the UDID was found,
or what was found stayed, no other one took its place, clients would not hold
it, and those that were announced in its place are held as they would be.
-/
theorem failedAdd_same_iff (s : Scene) (udid : String)
    (events : List WatcherEvent) (hkeyed : s.registry.Keyed)
    (harrivals : s.Arrivals events) :
    Same (s.failedAdd udid events) (s.handleAll events) <->
      forall old, s.registry.findNetworkByUdid udid = some (.network old) ->
        (Wait.after s old events).Harmless := by
  unfold failedAdd
  cases hfind : s.registry.findNetworkByUdid udid with
  | none =>
      apply iff_of_true
      · exact ⟨fun _ => Iff.rfl, rfl⟩
      · exact nofun
  | some d =>
      rcases Registry.findNetworkByUdid_eq_some hfind with ⟨old, rfl, _, rfl⟩
      have honly : (forall n, some (Device.network old) = some (.network n) ->
          (Wait.after s n events).Harmless) <->
          (Wait.after s old events).Harmless := by
        constructor
        · intro hall
          exact hall old rfl
        · intro hharmless n hn
          cases hn
          exact hharmless
      rw [honly]
      rcases parallel_run (parallel_start hkeyed hfind) rfl harrivals
          (arrivals_takeOut harrivals _) with
        ⟨hstays, hparallel⟩ | ⟨hdeparted, hgone⟩
      · exact restored_same_iff hparallel hstays
      · apply iff_of_false
        · intro hsame
          have hback := (hsame.left (.network old)).mp
            (Registry.mem_insert.mpr (Or.inl rfl))
          exact hgone _ hback rfl
        · intro hharmless
          exact Bool.false_ne_true (hharmless.left.symm.trans hdeparted)

/--
The USB device that hides the old device is lost and opened again under its id
during the wait.
-/
theorem failedAdd_same_reopened :
    Same
      (failedAdd
        { registry := [.network { id := 2, udid := "00008101" },
            .usb { id := 1, udid := "00008101" }],
          view := {1} }
        "00008101"
        [.usbDisconnected 1, .usbConnected { id := 1, udid := "00008101" }])
      (handleAll
        { registry := [.network { id := 2, udid := "00008101" },
            .usb { id := 1, udid := "00008101" }],
          view := {1} }
        [.usbDisconnected 1, .usbConnected { id := 1, udid := "00008101" }]) := by
  apply (failedAdd_same_iff _ _ _ _ _).mpr
  · intro old hold
    cases hold
    exact ⟨by decide, by decide, by decide, by decide⟩
  · intro d e hd he hid
    rcases List.mem_pair.mp hd with rfl | rfl <;>
      rcases List.mem_pair.mp he with rfl | rfl <;>
      first | rfl | cases hid
  · constructor
    · decide
    · intro id hid
      cases hid
    · intro id hid n hn
      cases List.mem_singleton.mp hid
      rcases List.mem_pair.mp hn with heq | heq
      · cases heq
        decide
      · cases heq
    · intro id hid
      simp at hid

/-- The network device is restored, but no client is told. -/
theorem not_same_restored :
    ¬ forall (s : Scene) (udid : String) (events : List WatcherEvent),
      s.registry.Keyed -> s.Arrivals events ->
        Same (s.failedAdd udid events) (s.handleAll events) := by
  intro h
  let phone : NetworkDevice := { id := 2, udid := "00008101" }
  have hkeyed : Registry.Keyed [.network phone] := by
    intro d e hd he _
    cases List.mem_singleton.mp hd
    cases List.mem_singleton.mp he
    rfl
  have hsame := h { registry := [.network phone], view := {2} } "00008101" []
    hkeyed
    { distinct := List.nodup_nil
      unused := fun id hid => by cases hid
      apart := fun id hid => by cases hid
      kinds := fun id hid => by cases hid }
  have hview := hsame.right
  revert hview
  decide

end Scene

end Watcher
end Rusbmux
