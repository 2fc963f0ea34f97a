import Rusbmux.Watcher.ExposureWatchers

/-!
# One exposure for each UDID

The steps of the requests that add devices and of the listener keep the
invariant as those of the watchers do.  So a run of steps that expose one device
never ends in a listing, or leaves a listener, with two ids of one UDID.
-/

namespace Rusbmux
namespace Watcher

open Foundation

namespace Exposure

variable {s t : Exposure}

/-!
## Steps of requests that add a device
-/

theorem Invariant.addDevice (h : Invariant s) {request : Nat} {udid : String}
    {force : Bool} (hstep : s.addDevice request udid force = some t) :
    Invariant t := by
  unfold Exposure.addDevice at hstep
  cases hadd : s.adds request with
  | some handler =>
      rw [hadd] at hstep
      cases hstep
  | none =>
      rw [hadd] at hstep
      have howed : forall handler : AddHandler, forall old,
          s.adds request = some old -> forall id, old.detaches = some id ->
            handler.detaches = some id := by
        intro handler old hold
        rw [hadd] at hold
        cases hold
      cases hfound : s.registry.findNetworkIdByUdid udid with
      | none =>
          rw [hfound] at hstep
          cases hstep
          refine h.setAdd ?_ (howed _) ?_
          · intro d hd
            cases hd
          · intro id hreplaces
            cases hreplaces
      | some old =>
          rw [hfound] at hstep
          rcases mem_of_findNetworkIdByUdid hfound with ⟨n, hn, _, hid⟩
          cases force with
          | true =>
              cases hstep
              refine h.setAdd ⟨n, h.registered hn, hid⟩ (howed _) ?_
              intro id hreplaces
              cases hreplaces
          | false =>
              cases hstep
              refine h.setAdd trivial (howed _) ?_
              intro id hreplaces
              cases hreplaces

theorem Invariant.detachAdd (h : Invariant s) {request : Nat} {udid : String}
    {old : UInt64} (hadd : s.adds request = some (.detaching udid old)) :
    Invariant
      ((s.send (.detached old)).setAdd request (.removing udid old)) := by
  have hgrounded := h.adds request _ hadd
  constructor
  case coherent => exact h.coherent
  case registered => exact h.registered
  case same => exact h.same
  case usb => exact h.usb
  case network => exact h.network
  case adds => exact adds_setAdd h.adds hgrounded
  case grounded =>
      refine listener_send fun l hl => (h.grounded l hl).push ?_
      rcases hgrounded with ⟨n, hn, hid⟩
      exact ⟨.network n, hn, hid⟩
  case watched =>
      refine listener_send fun l hl => (h.watched l hl).detach ?_ ?_
      · intro other hne hpending
        apply Awaited.setAdd (s := s.send (.detached old)) hpending
        intro handler hhandler howed
        cases hadd.symm.trans hhandler
        exact absurd (Option.some.inj howed).symm hne
      · intro other hreplaced
        exact (replaced_setAdd hreplaced).imp_right fun hnew =>
          (Option.some.inj hnew).symm

theorem Invariant.removeAdd (h : Invariant s) {request : Nat} {udid : String}
    {old : UInt64} (hadd : s.adds request = some (.removing udid old)) :
    Invariant ({ s with registry := s.registry.remove old }.setAdd request
      (.opening udid (s.registry.get old))) := by
  have hgrounded := h.adds request _ hadd
  have hreplaced : s.Replaced old := ⟨request, _, hadd, rfl⟩
  constructor
  case coherent => exact h.coherent.remove old
  case registered => exact h.registered_remove old
  case same => exact h.same
  case usb => exact h.usb_remove hgrounded
  case network => exact h.network
  case adds =>
      apply adds_setAdd h.adds
      intro d hd
      rcases Registry.get_eq_some hd with ⟨hd, hid⟩
      rcases hgrounded with ⟨n, hn, hnid⟩
      have hsame := h.same _ _ hn (h.registered hd) (hnid.trans hid.symm)
      have hkind := hsame.right
      cases d with
      | usb u => cases hkind
      | network m => exact ⟨m, rfl, h.registered hd⟩
  case grounded => exact h.grounded
  case watched =>
      intro l hl
      refine h.watched_remove rfl ?_ ?_ ?_ hl ?_
      · exact fun _ hconnects => hconnects
      · intro other hpending
        refine Awaited.setAdd
          (s := { s with registry := s.registry.remove old }) hpending ?_
        intro handler hhandler howed
        cases hadd.symm.trans hhandler
        cases howed
      · intro other hother
        rcases replaced_setAdd hother with hother | hnew
        · exact hother
        · rcases Option.map_eq_some_iff.mp hnew with ⟨d, hget, rfl⟩
          rw [(Registry.get_eq_some hget).right]
          exact hreplaced
      · intro hleft
        exact absurd hleft.mayBeLeft ((h.watched l hl).replaced old hreplaced)

theorem Invariant.restore (h : Invariant s) {request : Nat} {old : Device}
    (hadd : s.adds request = some (.restoring old))
    (hguard : s.NoNetwork old.udid) :
    Invariant ((s.register old).setAdd request .done) := by
  rcases h.adds request _ hadd with ⟨n, rfl, hn⟩
  have hback : Invariant (s.register (.network n)) := by
    apply h.registerNetwork hguard
    · intro e he hid
      exact h.same e _ he hn hid
    · intro l hl
      exact (h.watched l hl).replaced n.id ⟨request, _, hadd, rfl⟩
  refine hback.setAdd trivial ?_ ?_
  · intro handler hhandler id howed
    cases hadd.symm.trans hhandler
    cases howed
  · intro id hreplaces
    cases hreplaces

theorem Invariant.addStep (h : Invariant s) {request : Nat}
    (hguard : s.ExposesOne (.addStep request))
    (hstep : s.addStep request = some t) : Invariant t := by
  unfold Exposure.addStep at hstep
  simp only [ExposesOne] at hguard
  cases hadd : s.adds request with
  | none =>
      rw [hadd] at hstep
      cases hstep
  | some handler =>
      rw [hadd] at hstep hguard
      cases handler with
      | detaching udid old =>
          cases hstep
          exact h.detachAdd hadd
      | removing udid old =>
          cases hstep
          exact h.removeAdd hadd
      | opening udid old => cases hstep
      | restoring old =>
          cases hstep
          exact h.restore hadd hguard
      | publishing publisher =>
          rcases Option.map_eq_some_iff.mp hstep with ⟨⟨u, next⟩, hpublish, rfl⟩
          have hpublished := h.publish (h.adds request _ hadd) hguard hpublish
          apply hpublished.invariant.setAdd
          · cases next with
            | none => trivial
            | some publisher => exact hpublished.grounded publisher rfl
          · intro old hold id howed
            rw [hpublished.adds, hadd] at hold
            cases hold
            cases howed
          · intro id hreplaces
            cases next <;> cases hreplaces
      | done => cases hstep

theorem Invariant.addOpened (h : Invariant s) {request : Nat}
    {opened : Except RusbmuxError NetworkDevice}
    (hstep : s.addOpened request opened = some t) : Invariant t := by
  unfold Exposure.addOpened at hstep
  cases hadd : s.adds request with
  | none =>
      rw [hadd] at hstep
      cases hstep
  | some handler =>
      rw [hadd] at hstep
      cases handler with
      | detaching _ _ | removing _ _ | restoring _ | publishing _ | done =>
          cases hstep
      | opening udid old =>
          have howed : forall other : AddHandler, forall handler,
              s.adds request = some handler -> forall id,
                handler.detaches = some id -> other.detaches = some id := by
            intro other handler hhandler id howed
            cases hadd.symm.trans hhandler
            cases howed
          have hgrounded := h.adds request _ hadd
          cases opened with
          | ok dev =>
              rcases Machine.of_enabled_if hstep with ⟨_, hnext⟩
              cases hnext
              refine h.setAdd trivial (howed _) ?_
              intro id hreplaces
              cases hreplaces
          | error err =>
              cases old with
              | none =>
                  cases hstep
                  refine h.setAdd trivial (howed _) ?_
                  intro id hreplaces
                  cases hreplaces
              | some old =>
                  cases hstep
                  refine h.setAdd (hgrounded old rfl) (howed _) ?_
                  intro id hreplaces
                  exact ⟨request, _, hadd, hreplaces⟩

/-!
## Steps of the listener
-/

theorem Invariant.withListener (h : Invariant s) {next : Option Listener}
    (hgrounded : forall l, next = some l -> l.Grounded s.known)
    (hwatched : forall l, next = some l ->
      Watched s.registry s.UsbTakes s.Awaited s.Replaced l) :
    Invariant { s with listener := next } where
  coherent := h.coherent
  registered := h.registered
  same := h.same
  usb := h.usb
  network := h.network
  adds := h.adds
  grounded := hgrounded
  watched := hwatched

theorem Invariant.withPhase (h : Invariant s) {l : Listener}
    (hl : s.listener = some l) (phase : ListenerPhase) :
    Invariant { s with listener := some { l with phase := phase } } := by
  apply h.withListener
  · intro m hm
    cases hm
    exact ⟨(h.grounded l hl).held, (h.grounded l hl).queue⟩
  · intro m hm
    cases hm
    exact (h.watched l hl).of_eq rfl rfl

theorem Invariant.leave (h : Invariant s) :
    Invariant { s with listener := none } := by
  apply h.withListener
  · intro l hl
    cases hl
  · intro l hl
    cases hl

theorem Invariant.subscribe (h : Invariant s) (hstep : s.subscribe = some t) :
    Invariant t := by
  unfold Exposure.subscribe at hstep
  split at hstep
  · cases hstep
    apply h.withListener
    · intro l hl
      cases hl
      constructor
      · intro d hd
        cases hd
      · intro event hevent
        cases hevent
    · intro l hl
      cases hl
      exact Watched.empty
  · cases hstep

theorem Invariant.walk (h : Invariant s) (hstep : s.walk = some t) :
    Invariant t := by
  unfold Exposure.walk at hstep
  split at hstep
  · rename_i held queue hl
    cases hstep
    exact h.withPhase hl (.walking (s.registry.map Device.id) [])
  · cases hstep

theorem Invariant.finishWalk (h : Invariant s) (hstep : s.finishWalk = some t) :
    Invariant t := by
  unfold Exposure.finishWalk at hstep
  split at hstep
  · rename_i due visited held queue hl
    rcases Machine.of_enabled_if hstep with ⟨_, hnext⟩
    cases hnext
    exact h.withPhase hl .following
  · cases hstep

theorem Invariant.visit (h : Invariant s) {id : UInt64}
    (hguard : s.ExposesOne (.visit id)) (hstep : s.visit id = some t) :
    Invariant t := by
  unfold Exposure.visit at hstep
  split at hstep
  case h_2 => cases hstep
  rename_i due visited held queue device hl hget
  rcases Machine.of_disabled_if hstep with ⟨_, hnext⟩
  cases hnext
  rcases Registry.get_eq_some hget with ⟨hdevice, rfl⟩
  cases hshadowed : s.registry.isShadowed device with
  | true => exact h.withPhase hl (.walking due (device.id :: visited))
  | false =>
      have hheld : Invariant { s with
          listener := some ⟨.walking due visited, device :: held, queue⟩ } := by
        apply h.withListener
        · intro m hm
          cases hm
          constructor
          · intro d hd
            rcases List.mem_cons.mp hd with rfl | hd
            · exact h.registered hdevice
            · exact (h.grounded _ hl).held d hd
          · exact (h.grounded _ hl).queue
        · intro m hm
          cases hm
          apply (h.watched _ hl).hold hget
          intro hleft
          have hright := hguard _ device hl hget hshadowed hleft
          refine ⟨hright.left, hright.shown ?_⟩
          rw [hget]
          rfl
      exact hheld.withPhase rfl (.walking due (device.id :: visited))

theorem mem_heard {R : Registry} {held : List Device} {event : DeviceEvent}
    {d : Device} (hd : d ∈ R.heard held event) : d ∈ held ∨ d ∈ R := by
  unfold Registry.heard at hd
  cases event with
  | detached id => exact Or.inl (List.mem_of_mem_filter hd)
  | attached id =>
      cases hget : R.get id with
      | none =>
          simp only [hget] at hd
          exact Or.inl hd
      | some device =>
          simp only [hget] at hd
          rcases List.mem_cons.mp hd with rfl | hd
          · exact Or.inr (Registry.get_eq_some hget).left
          · exact Or.inl (List.mem_of_mem_filter hd)

theorem Invariant.receive (h : Invariant s) (hstep : s.receive = some t) :
    Invariant t := by
  unfold Exposure.receive at hstep
  split at hstep
  case h_2 => cases hstep
  rename_i held event rest hl
  split at hstep
  · cases hstep
    exact h.leave
  · cases hstep
    apply h.withListener
    · intro m hm
      cases hm
      constructor
      · intro d hd
        rcases mem_heard hd with hd | hd
        · exact (h.grounded _ hl).held d hd
        · exact h.registered hd
      · intro e he
        exact (h.grounded _ hl).queue e (List.mem_cons_of_mem _ he)
    · intro m hm
      cases hm
      exact (h.watched _ hl).receive

/-!
## Runs
-/

theorem Invariant.step (h : Invariant s) {a : Action}
    (hstep : Exposure.step s a = some t) (hguard : s.ExposesOne a) :
    Invariant t := by
  cases a with
  | usbConnected device => exact h.usbConnected hstep
  | usbDisconnected id => exact h.usbDisconnected hstep
  | usbStep => exact h.usbStep hguard hstep
  | networkConnected dev => exact h.networkConnected hstep
  | networkDisconnected id => exact h.networkDisconnected hstep
  | networkStep => exact h.networkStep hguard hstep
  | addDevice request udid force => exact h.addDevice hstep
  | addStep request => exact h.addStep hguard hstep
  | addOpened request opened => exact h.addOpened hstep
  | subscribe => exact h.subscribe hstep
  | walk => exact h.walk hstep
  | visit id => exact h.visit hguard hstep
  | finishWalk => exact h.finishWalk hstep
  | receive => exact h.receive hstep
  | leave =>
      cases hstep
      exact h.leave

theorem not_pending_of_idle (hidle : s.Idle) (id : UInt64) :
    ¬ s.Awaited id := by
  intro hpending
  rcases hpending with howed | howed | ⟨request, handler, hadd, howed⟩
  · rw [hidle.usb] at howed
    cases howed
  · rw [hidle.network] at howed
    cases howed
  · rw [hidle.adds request handler hadd] at howed
    cases howed

theorem Invariant.oneExposure (h : Invariant s) : OneExposure s := by
  intro hidle
  constructor
  · exact h.coherent.onePerUdid
  · intro l hl
    -- What an idle listener holds is listed, under the UDID it was shown with.
    have hlisted : forall d, d ∈ l.held ->
        exists e, e ∈ (s.registry.filter fun dev =>
          !s.registry.isShadowed dev) ∧ e.id = d.id ∧ e.udid = d.udid := by
      intro d hd
      have hleft : l.Left s.registry d.id := by
        unfold Listener.Left
        rw [(hidle.listener l hl).right]
        exact ⟨d, hd, rfl⟩
      rcases (h.watched l hl).left d.id hleft with hpending | hclear
      · exact absurd hpending (not_pending_of_idle hidle d.id)
      · rcases hclear.listed with ⟨e, he, hid⟩
        have heknown := h.registered (List.mem_of_mem_filter he)
        have hdknown := (h.grounded l hl).held d hd
        exact ⟨e, he, hid, (h.same e d heknown hdknown hid).left⟩
    intro d e hd he hudid
    rcases hlisted d hd with ⟨d', hd', hdid, hdudid⟩
    rcases hlisted e he with ⟨e', he', heid, heudid⟩
    have hsame : d'.udid = e'.udid := hdudid.trans (hudid.trans heudid.symm)
    calc
      d.id = d'.id := hdid.symm
      _ = e'.id := h.coherent.onePerUdid d' e' hd' he' hsame
      _ = e.id := heid

theorem oneExposure_of_exposesOne {acts : List Action}
    (hguarded : Machine.Guarded Exposure.step ExposesOne {} acts) :
    Machine.Throughout Exposure.step OneExposure {} acts := by
  have hinvariant : Machine.Throughout Exposure.step Invariant {} acts := by
    refine Machine.throughout_of_guarded (G := ExposesOne) ?_ ?_ ?_
    · intro s a t h hstep hguard
      exact h.step hstep hguard
    · exact Invariant.init
    · exact hguarded
  intro pre t hpre hrun
  exact (hinvariant pre t hpre hrun).oneExposure

theorem showable_of_alone {id : UInt64}
    (hadds : forall request, s.adds request = none)
    (husb : forall u, Device.usb u ∉ s.registry)
    (hconnects : s.usb.connects = none) : s.Showable id := by
  constructor
  · rintro ⟨request, handler, hadd, _⟩
    rw [hadds] at hadd
    cases hadd
  · rintro n _ _ (⟨u, hu, _⟩ | htaken)
    · exact absurd hu (husb u)
    · rw [hconnects] at htaken
      cases htaken

def pluggedInAndOut : List Action :=
  [.subscribe, .walk, .finishWalk, .networkConnected { id := 1, udid := "A" },
    .networkStep, .networkStep, .networkStep, .receive,
    .usbConnected { id := 2, udid := "A" }, .usbStep, .usbStep, .usbStep,
    .usbStep, .receive, .receive, .usbDisconnected 2, .usbStep, .usbStep,
    .usbStep, .receive, .receive]

theorem exposesOne_pluggedInAndOut :
    Machine.Guarded Exposure.step ExposesOne {} pluggedInAndOut := by
  refine .cons rfl trivial (.cons rfl trivial (.cons rfl trivial
    (.cons rfl trivial (.cons rfl ?_ (.cons rfl trivial (.cons rfl ?_
      (.cons rfl trivial (.cons rfl trivial (.cons rfl trivial (.cons rfl ?_
        (.cons rfl trivial (.cons rfl trivial (.cons rfl trivial
          (.cons rfl trivial (.cons rfl trivial (.cons rfl trivial
            (.cons rfl ?_ ?_)))))))))))))))))
  · intro n hn
    cases hn
  · exact Or.inr (showable_of_alone (fun _ => rfl) nofun rfl)
  · refine Or.inr ?_
    intro u hu
    cases hu with
    | tail _ hu => cases hu
  · exact Or.inr (showable_of_alone (fun _ => rfl) nofun rfl)
  · exact .cons rfl trivial (.cons rfl trivial (.cons rfl trivial
      (Machine.guarded_nil _ _ _)))

theorem oneExposure_of_exposesOne_pluggedInAndOut :
    Machine.Throughout Exposure.step OneExposure {} pluggedInAndOut :=
  oneExposure_of_exposesOne exposesOne_pluggedInAndOut

def twoAdds : List Action :=
  [.subscribe, .walk, .finishWalk,
    .addDevice 1 "A" false, .addDevice 2 "A" false,
    .addOpened 1 (.ok { id := 1, udid := "A" }),
    .addOpened 2 (.ok { id := 2, udid := "A" }),
    .addStep 1, .addStep 1, .addStep 1, .addStep 2, .addStep 2, .addStep 2,
    .receive, .receive]

theorem not_oneExposure_twoAdds :
    ¬ forall acts, Machine.Throughout Exposure.step OneExposure {} acts := by
  intro h
  have hlast := (h twoAdds).last rfl
  have hone := (hlast ?_).left
  · have hsame := hone (.network { id := 1, udid := "A" })
      (.network { id := 2, udid := "A" }) (by decide) (by decide) rfl
    cases hsame
  · constructor
    · rfl
    · rfl
    · intro request handler hadd
      match request, hadd with
      | 1, hfirst =>
          cases hfirst
          rfl
      | 2, hsecond =>
          cases hsecond
          rfl
    · intro l hl
      cases hl
      exact ⟨rfl, rfl⟩

end Exposure

end Watcher
end Rusbmux
