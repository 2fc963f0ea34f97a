import Rusbmux.Watcher.Exposure
import Rusbmux.Watcher.NetworkWatch

/-!
# Network devices that stop answering

`watch_network` next to the handlers of the daemon: `watch_network_daemon` polls
the stream, handles the event it yields to the end, and polls again, while
requests add devices and tokens are cancelled.  A registered device whose token
is cancelled is removed as long as the stream knows its id.
-/

namespace Rusbmux
namespace Watcher

open Foundation

namespace Exposure

/-!
## What a step registers
-/

def registers (s : Exposure) : Action -> Option Device
  | .usbStep =>
      match s.usb with
      | .inserting device => some (.usb device)
      | _ => none
  | .networkStep =>
      match s.network with
      | .publishing (.inserting dev) => some (.network dev)
      | _ => none
  | .addStep request =>
      match s.adds request with
      | some (.publishing (.inserting dev)) => some (.network dev)
      | some (.restoring old) => some old
      | _ => none
  | _ => none

@[simp] theorem registry_send (s : Exposure) (event : DeviceEvent) :
    (s.send event).registry = s.registry := rfl

@[simp] theorem network_send (s : Exposure) (event : DeviceEvent) :
    (s.send event).network = s.network := rfl

@[simp] theorem registry_sendSome (s : Exposure) (event : Option DeviceEvent) :
    (s.sendSome event).registry = s.registry := by
  cases event with
  | none => rfl
  | some event => rfl

@[simp] theorem network_sendSome (s : Exposure) (event : Option DeviceEvent) :
    (s.sendSome event).network = s.network := by
  cases event with
  | none => rfl
  | some event => rfl

theorem registry_publish {s : Exposure} {publisher : Publisher}
    {published : Exposure × Option Publisher}
    (hpublish : s.publish publisher = some published) :
    published.fst.registry = s.registry ∨
      exists dev, publisher = .inserting dev ∧
        published.fst.registry = Registry.insert s.registry (.network dev) := by
  cases publisher with
  | inserting dev =>
      cases (Machine.of_enabled_if hpublish).right
      exact Or.inr ⟨dev, rfl, rfl⟩
  | checking dev =>
      cases hpublish
      exact Or.inl rfl
  | attaching dev =>
      cases hpublish
      exact Or.inl rfl

theorem network_publish {s : Exposure} {publisher : Publisher}
    {published : Exposure × Option Publisher}
    (hpublish : s.publish publisher = some published) :
    published.fst.network = s.network ∧
      forall dev, published.snd ≠ some (.inserting dev) := by
  cases publisher with
  | inserting dev =>
      cases (Machine.of_enabled_if hpublish).right
      exact ⟨rfl, fun other hother => by cases hother⟩
  | checking dev =>
      cases hpublish
      refine ⟨rfl, fun other hother => ?_⟩
      split at hother
      · cases hother
      · cases hother
  | attaching dev =>
      cases hpublish
      exact ⟨rfl, fun other hother => by cases hother⟩

/--
What a step may add: the registry holds nothing new but what the step registers,
and the network watcher is about to register only what it has taken up.
-/
structure Adds (s t : Exposure) (a : Action) : Prop where
  registry : forall d, d ∈ t.registry ->
    d ∈ s.registry ∨ s.registers a = some d
  network : forall dev, t.network = .publishing (.inserting dev) ->
    s.network = .publishing (.inserting dev) ∨ a = .networkConnected dev

theorem Adds.nothing {s t : Exposure} {a : Action}
    (hregistry : forall d, d ∈ t.registry -> d ∈ s.registry)
    (hnetwork : t.network = s.network) : Adds s t a where
  registry d hd := Or.inl (hregistry d hd)
  network dev hdev := by
    rw [hnetwork] at hdev
    exact Or.inl hdev

theorem Adds.same {s t : Exposure} {a : Action}
    (hregistry : t.registry = s.registry) (hnetwork : t.network = s.network) :
    Adds s t a := by
  apply Adds.nothing
  · intro d hd
    rw [hregistry] at hd
    exact hd
  · exact hnetwork

theorem Adds.insert {s t : Exposure} {a : Action} {dev : Device}
    (hregisters : s.registers a = some dev)
    (hregistry : t.registry = Registry.insert s.registry dev)
    (hnetwork : forall other, t.network = .publishing (.inserting other) ->
      s.network = .publishing (.inserting other)) : Adds s t a where
  registry d hd := by
    rw [hregistry] at hd
    rcases Registry.mem_insert.mp hd with rfl | ⟨hd, _⟩
    · exact Or.inr hregisters
    · exact Or.inl hd
  network other hother := Or.inl (hnetwork other hother)

theorem adds_usbStep {s t : Exposure} (hstep : s.usbStep = some t) :
    Adds s t .usbStep := by
  unfold usbStep at hstep
  split at hstep
  · cases hstep
  · cases hstep
    exact Adds.same (registry_sendSome s _) (network_sendSome s _)
  · cases hstep
    exact Adds.nothing (fun d hd => (List.mem_filter.mp hd).left) rfl
  · rename_i device husb
    cases (Machine.of_enabled_if hstep).right
    have hregisters : s.registers .usbStep = some (.usb device) := by
      rw [registers, husb]
    exact Adds.insert hregisters rfl fun _ hother => hother
  · cases hstep
    exact Adds.same rfl rfl
  · cases hstep
    exact Adds.same rfl rfl
  · cases hstep
    exact Adds.same rfl rfl
  · cases hstep
    exact Adds.same (registry_sendSome s _) (network_sendSome s _)
  · cases hstep
    exact Adds.same rfl rfl

theorem adds_networkStep {s t : Exposure} (hstep : s.networkStep = some t) :
    Adds s t .networkStep := by
  unfold networkStep at hstep
  split at hstep
  · cases hstep
  · rename_i publisher hnetwork
    rcases Option.map_eq_some_iff.mp hstep with ⟨published, hpublish, rfl⟩
    have hnever : forall other,
        NetworkHandler.ofPublisher published.snd ≠
          .publishing (.inserting other) := by
      intro other hother
      have hnot := (network_publish hpublish).right other
      cases hnext : published.snd with
      | none =>
          rw [hnext] at hother
          cases hother
      | some next =>
          rw [hnext] at hother hnot
          cases hother
          exact hnot rfl
    rcases registry_publish hpublish with hsame | ⟨dev, rfl, hinsert⟩
    · constructor
      · intro d hd
        have hd : d ∈ published.fst.registry := hd
        rw [hsame] at hd
        exact Or.inl hd
      · intro other hother
        exact absurd hother (hnever other)
    · have hregisters : s.registers .networkStep = some (.network dev) := by
        rw [registers, hnetwork]
      apply Adds.insert hregisters
      · exact hinsert
      · intro other hother
        exact absurd hother (hnever other)
  · cases hstep
    refine ⟨fun d hd => Or.inl hd, ?_⟩
    intro dev hdev
    change (if _ then _ else _) = _ at hdev
    split at hdev
    · cases hdev
    · cases hdev
  · cases hstep
    refine ⟨fun d hd => Or.inl hd, ?_⟩
    intro dev hdev
    cases hdev

theorem adds_addStep {s t : Exposure} {request : Nat}
    (hstep : s.addStep request = some t) : Adds s t (.addStep request) := by
  unfold addStep at hstep
  split at hstep
  · cases hstep
    exact Adds.same rfl rfl
  · cases hstep
    exact Adds.nothing (fun d hd => (Registry.mem_remove.mp hd).left) rfl
  · rename_i old hadd
    cases hstep
    have hregisters : s.registers (.addStep request) = some old := by
      rw [registers, hadd]
    exact Adds.insert hregisters rfl fun _ hother => hother
  · rename_i publisher hadd
    rcases Option.map_eq_some_iff.mp hstep with ⟨published, hpublish, rfl⟩
    have hsameNetwork : published.fst.network = s.network :=
      (network_publish hpublish).left
    rcases registry_publish hpublish with hsame | ⟨dev, rfl, hinsert⟩
    · exact Adds.same hsame hsameNetwork
    · have hregisters :
          s.registers (.addStep request) = some (.network dev) := by
        rw [registers, hadd]
      apply Adds.insert hregisters
      · exact hinsert
      · intro other hother
        have hother : published.fst.network = _ := hother
        rw [hsameNetwork] at hother
        exact hother
  · cases hstep
  · cases hstep
  · cases hstep

theorem networkConnected_eq_some {s t : Exposure} {dev : NetworkDevice}
    (hstep : s.networkConnected dev = some t) :
    t.registry = s.registry ∧
      (t.network = .idle ∨ t.network = .publishing (.inserting dev)) := by
  unfold networkConnected at hstep
  split at hstep
  · rename_i hidle
    split at hstep
    · cases hstep
      exact ⟨rfl, Or.inl hidle⟩
    · cases hstep
      exact ⟨rfl, Or.inr rfl⟩
  · cases hstep

theorem networkDisconnected_eq_some {s t : Exposure} {id : UInt64}
    (hstep : s.networkDisconnected id = some t) :
    (forall d, d ∈ t.registry -> d ∈ s.registry ∧ d.id ≠ id) ∧
      forall dev, t.network ≠ .publishing (.inserting dev) := by
  unfold networkDisconnected at hstep
  split at hstep
  · rename_i hidle hget
    cases hstep
    refine ⟨fun d hd => ⟨hd, Registry.get_eq_none hget d hd⟩, ?_⟩
    intro dev hdev
    cases hidle.symm.trans hdev
  · cases hstep
    refine ⟨fun d hd => Registry.mem_remove.mp hd, ?_⟩
    intro dev hdev
    cases hdev
  · cases hstep

theorem adds_step {s t : Exposure} {a : Action} (hstep : step s a = some t) :
    Adds s t a := by
  cases a with
  | usbStep => exact adds_usbStep hstep
  | networkStep => exact adds_networkStep hstep
  | addStep request => exact adds_addStep hstep
  | networkConnected dev =>
      rcases networkConnected_eq_some hstep with ⟨hregistry, hnetwork⟩
      constructor
      · intro d hd
        rw [hregistry] at hd
        exact Or.inl hd
      · intro other hother
        rcases hnetwork with hidle | hinserting
        · cases hidle.symm.trans hother
        · cases hinserting.symm.trans hother
          exact Or.inr rfl
  | networkDisconnected id =>
      rcases networkDisconnected_eq_some hstep with ⟨hregistry, hnetwork⟩
      constructor
      · intro d hd
        exact Or.inl (hregistry d hd).left
      · intro other hother
        exact absurd hother (hnetwork other)
  | usbConnected device =>
      change s.usbConnected device = some t at hstep
      unfold usbConnected at hstep
      split at hstep
      · cases hstep
        exact Adds.same rfl rfl
      · cases hstep
  | usbDisconnected id =>
      change s.usbDisconnected id = some t at hstep
      unfold usbDisconnected at hstep
      split at hstep
      · cases hstep
        exact Adds.same rfl rfl
      · cases hstep
        exact Adds.nothing (fun d hd => (Registry.mem_remove.mp hd).left) rfl
      · cases hstep
  | addDevice request udid force =>
      change s.addDevice request udid force = some t at hstep
      unfold addDevice at hstep
      split at hstep
      · split at hstep
        · cases hstep
          exact Adds.same rfl rfl
        · split at hstep
          · cases hstep
            exact Adds.same rfl rfl
          · cases hstep
            exact Adds.same rfl rfl
      · cases hstep
  | addOpened request opened =>
      change s.addOpened request opened = some t at hstep
      unfold addOpened at hstep
      split at hstep
      · cases (Machine.of_enabled_if hstep).right
        exact Adds.same rfl rfl
      · cases hstep
        exact Adds.same rfl rfl
      · cases hstep
        exact Adds.same rfl rfl
      · cases hstep
  | subscribe =>
      change s.subscribe = some t at hstep
      unfold subscribe at hstep
      split at hstep
      · cases hstep
        exact Adds.same rfl rfl
      · cases hstep
  | walk =>
      change s.walk = some t at hstep
      unfold walk at hstep
      split at hstep
      · cases hstep
        exact Adds.same rfl rfl
      · cases hstep
  | visit id =>
      change s.visit id = some t at hstep
      unfold visit at hstep
      split at hstep
      · cases (Machine.of_disabled_if hstep).right
        exact Adds.same rfl rfl
      · cases hstep
  | finishWalk =>
      change s.finishWalk = some t at hstep
      unfold finishWalk at hstep
      split at hstep
      · cases (Machine.of_enabled_if hstep).right
        exact Adds.same rfl rfl
      · cases hstep
  | receive =>
      change s.receive = some t at hstep
      unfold receive at hstep
      split at hstep
      · split at hstep
        · cases hstep
          exact Adds.same rfl rfl
        · cases hstep
          exact Adds.same rfl rfl
      · cases hstep
  | leave =>
      cases hstep
      exact Adds.same rfl rfl

end Exposure

/-!
## The stream and its futures
-/

namespace NetworkWatch

def yielded (s t : NetworkWatch) : Option NetworkEvent :=
  if t.log.length = s.log.length then none else t.log.head?.map Prod.fst

structure Awaited (s : NetworkWatch) : Prop where
  unique : forall first second id, (first, id) ∈ s.devsCanceler ->
    (second, id) ∈ s.devsCanceler -> first = second
  issued : forall macAddress id, (macAddress, id) ∈ s.devsCanceler ->
    exists dev, dev ∈ s.log.handedOut ∧ dev.id = id
  map_awaited : forall macAddress id,
    s.devicesIdMap macAddress = some id -> (macAddress, id) ∈ s.devsCanceler

structure Yields (s t : NetworkWatch) : Prop where
  awaited : t.Awaited
  cancelled : t.cancelled = s.cancelled
  known : forall macAddress id, s.devicesIdMap macAddress = some id ->
    t.devicesIdMap macAddress = some id ∨
      yielded s t = some (.disconnected id)
  connected : forall dev, yielded s t = some (.connected dev) ->
    exists macAddress, t.devicesIdMap macAddress = some dev.id

theorem Awaited.init : Awaited {} where
  unique first second id hfirst := by
    cases hfirst
  issued macAddress id hid := by
    cases hid
  map_awaited macAddress id hid := by
    cases hid

theorem yielded_self (s : NetworkWatch) : yielded s s = none :=
  if_pos rfl

theorem yielded_cons {s t : NetworkWatch} {event : NetworkEvent}
    {cause : Cause} (hlog : t.log = (event, cause) :: s.log) :
    yielded s t = some event := by
  rw [yielded, if_neg, hlog]
  · rfl
  · rw [hlog, List.length_cons]
    exact Nat.succ_ne_self _

theorem Yields.refl {s : NetworkWatch} (h : s.Awaited) : Yields s s where
  awaited := h
  cancelled := rfl
  known macAddress id hid := Or.inl hid
  connected dev hdev := by
    rw [yielded_self] at hdev
    cases hdev

theorem Yields.failed {s t : NetworkWatch} (h : s.Awaited)
    {err : RusbmuxError} {cause : Cause}
    (hcanceler : t.devsCanceler = s.devsCanceler)
    (hmap : t.devicesIdMap = s.devicesIdMap)
    (hcancelled : t.cancelled = s.cancelled)
    (hlog : t.log = (.failed err, cause) :: s.log) : Yields s t where
  awaited := by
    constructor
    · rw [hcanceler]
      exact h.unique
    · rw [hcanceler, hlog]
      exact h.issued
    · rw [hcanceler, hmap]
      exact h.map_awaited
  cancelled := hcancelled
  known macAddress id hid := by
    rw [hmap]
    exact Or.inl hid
  connected dev hdev := by
    rw [yielded_cons hlog] at hdev
    cases hdev

theorem Yields.drop {s t : NetworkWatch} (h : s.Awaited)
    (hsub : forall canceler, canceler ∈ t.devsCanceler ->
      canceler ∈ s.devsCanceler)
    (hmap : t.devicesIdMap = s.devicesIdMap) (hlog : t.log = s.log)
    (hcancelled : t.cancelled = s.cancelled)
    (hkept : forall macAddress id, s.devicesIdMap macAddress = some id ->
      (macAddress, id) ∈ t.devsCanceler) : Yields s t where
  awaited := by
    constructor
    · intro first second id hfirst hsecond
      exact h.unique first second id (hsub _ hfirst) (hsub _ hsecond)
    · rw [hlog]
      intro macAddress id hid
      exact h.issued macAddress id (hsub _ hid)
    · rw [hmap]
      exact hkept
  cancelled := hcancelled
  known macAddress id hid := by
    rw [hmap]
    exact Or.inl hid
  connected dev hdev := by
    rw [yielded, if_pos (by rw [hlog])] at hdev
    cases hdev

theorem Yields.forget {s t : NetworkWatch} (h : s.Awaited)
    {macAddress : String} {gone : UInt64} {cause : Cause}
    (hgone : s.devicesIdMap macAddress = some gone)
    (hsub : forall canceler, canceler ∈ t.devsCanceler ->
      canceler ∈ s.devsCanceler)
    (hmap : t.devicesIdMap = Function.update s.devicesIdMap macAddress none)
    (hlog : t.log = (.disconnected gone, cause) :: s.log)
    (hcancelled : t.cancelled = s.cancelled)
    (hkept : forall other id, other ≠ macAddress ->
      (other, id) ∈ s.devsCanceler -> (other, id) ∈ t.devsCanceler) :
    Yields s t where
  awaited := by
    constructor
    · intro first second id hfirst hsecond
      exact h.unique first second id (hsub _ hfirst) (hsub _ hsecond)
    · rw [hlog]
      intro other id hid
      exact h.issued other id (hsub _ hid)
    · rw [hmap]
      intro other id hid
      by_cases hsame : other = macAddress
      · subst hsame
        rw [Function.update_self] at hid
        cases hid
      · rw [Function.update_of_ne hsame] at hid
        exact hkept other id hsame (h.map_awaited other id hid)
  cancelled := hcancelled
  known other id hid := by
    by_cases hsame : other = macAddress
    · subst hsame
      cases hgone.symm.trans hid
      exact Or.inr (yielded_cons hlog)
    · rw [hmap, Function.update_of_ne hsame]
      exact Or.inl hid
  connected dev hdev := by
    rw [yielded_cons hlog] at hdev
    cases hdev

theorem Yields.connect {s t : NetworkWatch} (h : s.Awaited)
    {macAddress : String} {dev : NetworkDevice} {cause : Cause}
    (hunknown : s.devicesIdMap macAddress = none)
    (hfresh : forall other, other ∈ s.log.handedOut -> other.id ≠ dev.id)
    (hcanceler : t.devsCanceler = (macAddress, dev.id) :: s.devsCanceler)
    (hmap : t.devicesIdMap =
      Function.update s.devicesIdMap macAddress (some dev.id))
    (hlog : t.log = (.connected dev, cause) :: s.log)
    (hcancelled : t.cancelled = s.cancelled) : Yields s t where
  awaited := by
    have hnew : forall other, (other, dev.id) ∉ s.devsCanceler := by
      intro other hmem
      rcases h.issued other dev.id hmem with ⟨old, hold, hid⟩
      exact hfresh old hold hid
    constructor
    · rw [hcanceler]
      intro first second id hfirst hsecond
      rcases List.mem_cons.mp hfirst with hfirst | hfirst
      · cases hfirst
        rcases List.mem_cons.mp hsecond with hsecond | hsecond
        · cases hsecond
          rfl
        · exact absurd hsecond (hnew second)
      · rcases List.mem_cons.mp hsecond with hsecond | hsecond
        · cases hsecond
          exact absurd hfirst (hnew first)
        · exact h.unique first second id hfirst hsecond
    · rw [hcanceler, hlog]
      intro other id hid
      rcases List.mem_cons.mp hid with hid | hid
      · cases hid
        exact ⟨dev, List.mem_cons_self, rfl⟩
      · rcases h.issued other id hid with ⟨old, hold, hsame⟩
        exact ⟨old, List.mem_cons_of_mem _ hold, hsame⟩
    · rw [hcanceler, hmap]
      intro other id hid
      by_cases hsame : other = macAddress
      · subst hsame
        rw [Function.update_self] at hid
        cases hid
        exact List.mem_cons_self
      · rw [Function.update_of_ne hsame] at hid
        exact List.mem_cons_of_mem _ (h.map_awaited other id hid)
  cancelled := hcancelled
  known other id hid := by
    refine Or.inl ?_
    have hne : other ≠ macAddress := by
      intro hsame
      subst hsame
      cases hunknown.symm.trans hid
    rw [hmap, Function.update_of_ne hne]
    exact hid
  connected other hother := by
    rw [yielded_cons hlog] at hother
    cases hother
    refine ⟨macAddress, ?_⟩
    rw [hmap, Function.update_self]

theorem yields_resolved {s t : NetworkWatch} (h : s.Awaited)
    {rd : ResolvedDevice} {id : UInt64} {opened : Except RusbmuxError Unit}
    (hstep : s.resolved rd id opened = some t) : Yields s t := by
  unfold resolved at hstep
  split at hstep
  · cases hstep
    exact Yields.refl h
  · rename_i hunknown
    rcases Machine.of_disabled_if hstep with ⟨hfresh, hopened⟩
    cases opened with
    | error err =>
        cases hopened
        exact Yields.failed h rfl rfl rfl rfl
    | ok _ =>
        cases hopened
        have hall : forall dev, dev ∈ s.log.handedOut -> dev.id ≠ id := by
          simpa [isFresh] using hfresh
        have hnone := Option.not_isSome_iff_eq_none.mp hunknown
        exact Yields.connect h hnone hall rfl rfl rfl rfl

theorem yields_removed {s : NetworkWatch} (h : s.Awaited)
    (macAddress : String) (cause : Cause) :
    Yields s (s.disconnect macAddress cause) := by
  unfold NetworkWatch.disconnect
  cases hmap : s.devicesIdMap macAddress with
  | none => exact Yields.refl h
  | some gone =>
      exact Yields.forget h hmap (fun _ hmem => hmem) rfl rfl rfl
        fun _ _ _ hmem => hmem

theorem yields_pickUp {s t : NetworkWatch} (h : s.Awaited) {id : UInt64}
    (hstep : s.pickUp id = some t) : Yields s t := by
  rcases pickUp_eq_some hstep with ⟨⟨macAddress, found⟩, hcanceler, rfl⟩
  have hmem : (macAddress, found) ∈ s.devsCanceler :=
    List.mem_of_find?_eq_some hcanceler
  have hfound : found = id := by
    simpa using List.find?_some hcanceler
  subst hfound
  have hsub : forall canceler,
      canceler ∈ (s.devsCanceler.filter fun canceler =>
        canceler.snd ≠ found) -> canceler ∈ s.devsCanceler :=
    fun _ hkept => (List.mem_filter.mp hkept).left
  have hothers : forall other id', other ≠ macAddress ->
      (other, id') ∈ s.devsCanceler ->
        (other, id') ∈ s.devsCanceler.filter fun canceler =>
          canceler.snd ≠ found := by
    intro other id' hne hother
    apply List.mem_filter.mpr
    refine ⟨hother, decide_eq_true ?_⟩
    intro hsame
    have hsame : id' = found := hsame
    subst hsame
    exact hne (h.unique other macAddress id' hother hmem)
  unfold NetworkWatch.disconnect
  cases hmap : s.devicesIdMap macAddress with
  | none =>
      have hkept : forall other id', s.devicesIdMap other = some id' ->
          (other, id') ∈ s.devsCanceler.filter fun canceler =>
            canceler.snd ≠ found := by
        intro other id' hother
        apply hothers other id'
        · intro hsame
          subst hsame
          cases hmap.symm.trans hother
        · exact h.map_awaited other id' hother
      exact Yields.drop h hsub rfl rfl rfl hkept
  | some gone => exact Yields.forget h hmap hsub rfl rfl rfl hothers

theorem yields_step {s t : NetworkWatch} (h : s.Awaited) {a : Action}
    (hcancel : forall id, a ≠ .cancel id) (hclose : a ≠ .closeBrowser)
    (hstep : step s a = some t) : Yields s t := by
  cases a with
  | resolved rd id opened =>
      cases rd with
      | none =>
          cases (Machine.of_disabled_if hstep).right
          exact Yields.refl h
      | some rd => exact yields_resolved h (Machine.of_disabled_if hstep).right
  | removed name =>
      cases (Machine.of_disabled_if hstep).right
      exact yields_removed h _ _
  | cancel id => exact absurd rfl (hcancel id)
  | pickUp id => exact yields_pickUp h hstep
  | closeBrowser => exact absurd rfl hclose
  | finish =>
      cases (Machine.of_enabled_if hstep).right
      exact Yields.failed h rfl rfl rfl rfl

end NetworkWatch

structure NetworkDaemon where
  watch : NetworkWatch := {}
  pending : Option NetworkEvent := none
  exposure : Exposure := {}

namespace NetworkDaemon

inductive Action where
  | poll (a : NetworkWatch.Action)
  | cancel (id : UInt64)
  | closeBrowser
  | take
  | handle (a : Exposure.Action)

def isPolling (s : NetworkDaemon) : Bool :=
  s.pending.isNone && decide (s.exposure.network = .idle)

def permitsPoll (s : NetworkDaemon) : NetworkWatch.Action -> Bool
  | .resolved _ id _ => s.exposure.known.all fun dev => dev.id ≠ id
  | .removed _ | .pickUp _ | .finish => true
  | .cancel _ | .closeBrowser => false

def permitsHandle (s : NetworkDaemon) : Exposure.Action -> Bool
  | .networkConnected _ | .networkDisconnected _ => false
  | .addOpened _ (.ok dev) => s.watch.isFresh dev.id
  | .usbConnected device => s.watch.isFresh device.id
  | _ => true

def take (s : NetworkDaemon) : Option NetworkDaemon :=
  match s.pending with
  | none => none
  | some (.connected dev) =>
      (s.exposure.networkConnected dev).map fun exposure =>
        { s with pending := none, exposure := exposure }
  | some (.disconnected id) =>
      (s.exposure.networkDisconnected id).map fun exposure =>
        { s with pending := none, exposure := exposure }
  | some (.failed _) => some { s with pending := none }

def step : Machine NetworkDaemon Action := fun s a =>
  match a with
  | .poll a =>
      if s.isPolling && s.permitsPoll a then
        (NetworkWatch.step s.watch a).map fun watch =>
          { s with watch := watch, pending := s.watch.yielded watch }
      else
        none
  | .cancel id =>
      some { s with
        watch := { s.watch with cancelled := id :: s.watch.cancelled } }
  | .closeBrowser => some { s with watch := { s.watch with closed := true } }
  | .take => s.take
  | .handle a =>
      if s.permitsHandle a then
        (Exposure.step s.exposure a).map fun exposure =>
          { s with exposure := exposure }
      else
        none

structure Quiet (s : NetworkDaemon) : Prop where
  futures : forall canceler, canceler ∈ s.watch.devsCanceler ->
    canceler.snd ∉ s.watch.cancelled
  pending : s.pending = none
  usb : s.exposure.usb = .idle
  network : s.exposure.network = .idle
  adds : forall request handler, s.exposure.adds request = some handler ->
    handler = .done

/-- No network device stays registered whose token is cancelled. -/
def NoneDead (s : NetworkDaemon) : Prop :=
  s.Quiet -> forall n, Device.network n ∈ s.exposure.registry ->
    n.id ∉ s.watch.cancelled

def Watches (s : NetworkDaemon) (id : UInt64) : Prop :=
  (exists macAddress, s.watch.devicesIdMap macAddress = some id) ∨
    s.pending = some (.disconnected id)

/--
A registered device whose token is cancelled is one the stream knows, and so is
a device with a cancelled token that a request registers or puts back.
-/
def CancelsWatched (s : NetworkDaemon) : Action -> Prop
  | .cancel id =>
      forall n, Device.network n ∈ s.exposure.registry -> n.id = id ->
        s.Watches id
  | .handle (.addStep request) =>
      forall n, s.exposure.registers (.addStep request) = some (.network n) ->
        n.id ∈ s.watch.cancelled -> s.Watches n.id
  | .handle _ | .poll _ | .closeBrowser | .take => True

structure Invariant (s : NetworkDaemon) : Prop where
  awaited : s.watch.Awaited
  connected : forall dev, s.pending = some (.connected dev) ->
    exists macAddress, s.watch.devicesIdMap macAddress = some dev.id
  inserting : forall dev,
    s.exposure.network = .publishing (.inserting dev) ->
      exists macAddress, s.watch.devicesIdMap macAddress = some dev.id
  registered : forall n, Device.network n ∈ s.exposure.registry ->
    n.id ∈ s.watch.cancelled -> s.Watches n.id

theorem Invariant.noneDead {s : NetworkDaemon} (h : Invariant s) :
    s.NoneDead := by
  intro hquiet n hn hcancelled
  rcases h.registered n hn hcancelled with ⟨macAddress, hmap⟩ | hpending
  · exact hquiet.futures _ (h.awaited.map_awaited macAddress n.id hmap)
      hcancelled
  · rw [hquiet.pending] at hpending
    cases hpending

theorem Invariant.init : Invariant {} where
  awaited := NetworkWatch.Awaited.init
  connected dev hdev := by
    cases hdev
  inserting dev hdev := by
    cases hdev
  registered n hn := by
    cases hn

theorem invariant_poll {s t : NetworkDaemon} (h : Invariant s)
    {a : NetworkWatch.Action} (hstep : step s (.poll a) = some t) :
    Invariant t := by
  rcases Machine.of_enabled_if hstep with ⟨henabled, hpoll⟩
  rcases Bool.and_eq_true_iff.mp henabled with ⟨hpolling, hpermits⟩
  rcases Bool.and_eq_true_iff.mp hpolling with ⟨hpending, hidle⟩
  have hpending : s.pending = none := Option.isNone_iff_eq_none.mp hpending
  have hidle : s.exposure.network = .idle := of_decide_eq_true hidle
  rcases Option.map_eq_some_iff.mp hpoll with ⟨watch, hwatch, rfl⟩
  have hcancel : forall id, a ≠ .cancel id := by
    intro id ha
    subst ha
    cases hpermits
  have hclose : a ≠ .closeBrowser := by
    intro ha
    subst ha
    cases hpermits
  have hyields := NetworkWatch.yields_step h.awaited hcancel hclose hwatch
  constructor
  · exact hyields.awaited
  · exact hyields.connected
  · intro dev hdev
    cases hidle.symm.trans hdev
  · intro n hn hcancelled
    have hcancelled : n.id ∈ watch.cancelled := hcancelled
    rw [hyields.cancelled] at hcancelled
    rcases h.registered n hn hcancelled with ⟨macAddress, hmap⟩ | hgone
    · rcases hyields.known macAddress n.id hmap with hstill | hyielded
      · exact Or.inl ⟨macAddress, hstill⟩
      · exact Or.inr hyielded
    · rw [hpending] at hgone
      cases hgone

theorem invariant_cancel {s t : NetworkDaemon} (h : Invariant s) {id : UInt64}
    (hstep : step s (.cancel id) = some t)
    (hguard : s.CancelsWatched (.cancel id)) : Invariant t := by
  cases hstep
  constructor
  · exact ⟨h.awaited.unique, h.awaited.issued, h.awaited.map_awaited⟩
  · exact h.connected
  · exact h.inserting
  · intro n hn hcancelled
    rcases List.mem_cons.mp hcancelled with hid | hcancelled
    · rw [hid]
      exact hguard n hn hid
    · exact h.registered n hn hcancelled

theorem invariant_take {s t : NetworkDaemon} (h : Invariant s)
    (hstep : s.take = some t) : Invariant t := by
  unfold take at hstep
  split at hstep
  · cases hstep
  · rename_i dev hpending
    rcases Option.map_eq_some_iff.mp hstep with ⟨exposure, htake, rfl⟩
    rcases Exposure.networkConnected_eq_some htake with ⟨hregistry, hnetwork⟩
    constructor
    · exact h.awaited
    · intro other hother
      cases hother
    · intro other hother
      rcases hnetwork with hidle | hinserting
      · cases hidle.symm.trans hother
      · cases hinserting.symm.trans hother
        exact h.connected dev hpending
    · intro n hn hcancelled
      have hn : Device.network n ∈ exposure.registry := hn
      rw [hregistry] at hn
      rcases h.registered n hn hcancelled with hmap | hgone
      · exact Or.inl hmap
      · cases hpending.symm.trans hgone
  · rename_i id hpending
    rcases Option.map_eq_some_iff.mp hstep with ⟨exposure, htake, rfl⟩
    rcases Exposure.networkDisconnected_eq_some htake with
      ⟨hregistry, hnetwork⟩
    constructor
    · exact h.awaited
    · intro other hother
      cases hother
    · intro other hother
      exact absurd hother (hnetwork other)
    · intro n hn hcancelled
      rcases hregistry _ hn with ⟨hn, hne⟩
      rcases h.registered n hn hcancelled with hmap | hgone
      · exact Or.inl hmap
      · cases hpending.symm.trans hgone
        exact absurd rfl hne
  · rename_i err hpending
    cases hstep
    constructor
    · exact h.awaited
    · intro other hother
      cases hother
    · exact h.inserting
    · intro n hn hcancelled
      rcases h.registered n hn hcancelled with hmap | hgone
      · exact Or.inl hmap
      · cases hpending.symm.trans hgone

theorem registers_network {s : Exposure} {a : Exposure.Action}
    {n : NetworkDevice} (h : s.registers a = some (.network n)) :
    s.network = .publishing (.inserting n) ∨
      exists request, a = .addStep request := by
  unfold Exposure.registers at h
  split at h
  · split at h
    · cases h
    · cases h
  · split at h
    · rename_i dev hnetwork
      cases h
      exact Or.inl hnetwork
    · cases h
  · exact Or.inr ⟨_, rfl⟩
  · cases h

theorem invariant_handle {s t : NetworkDaemon} (h : Invariant s)
    {a : Exposure.Action} (hstep : step s (.handle a) = some t)
    (hguard : s.CancelsWatched (.handle a)) : Invariant t := by
  rcases Machine.of_enabled_if hstep with ⟨hpermits, hhandle⟩
  rcases Option.map_eq_some_iff.mp hhandle with ⟨exposure, hexposure, rfl⟩
  have hadds := Exposure.adds_step hexposure
  constructor
  · exact h.awaited
  · exact h.connected
  · intro dev hdev
    rcases hadds.network dev hdev with hbefore | htaken
    · exact h.inserting dev hbefore
    · subst htaken
      cases hpermits
  · intro n hn hcancelled
    rcases hadds.registry _ hn with hbefore | hregisters
    · exact h.registered n hbefore hcancelled
    · rcases registers_network hregisters with hinserting | ⟨request, rfl⟩
      · exact Or.inl (h.inserting n hinserting)
      · exact hguard n hregisters hcancelled

theorem invariant_step {s t : NetworkDaemon} {a : Action} (h : Invariant s)
    (hstep : step s a = some t) (hguard : s.CancelsWatched a) :
    Invariant t := by
  cases a with
  | poll a => exact invariant_poll h hstep
  | cancel id => exact invariant_cancel h hstep hguard
  | take => exact invariant_take h hstep
  | handle a => exact invariant_handle h hstep hguard
  | closeBrowser =>
      cases hstep
      constructor
      · exact ⟨h.awaited.unique, h.awaited.issued, h.awaited.map_awaited⟩
      · exact h.connected
      · exact h.inserting
      · exact h.registered

/--
While only devices that the stream knows are registered with a cancelled token,
none is left registered once everything is processed.
-/
theorem noneDead_throughout {actions : List Action}
    (hguarded : Machine.Guarded step CancelsWatched {} actions) :
    Machine.Throughout step NoneDead {} actions := by
  have hinvariant : Machine.Throughout step Invariant {} actions :=
    Machine.throughout_of_guarded (fun _ _ _ => invariant_step)
      Invariant.init hguarded
  intro pre t hpre hrun
  exact (hinvariant pre t hpre hrun).noneDead

def lostPhone : List Action :=
  [.poll (.resolved (some NetworkWatch.phone) 1 (.ok ())), .take,
    .handle .networkStep, .handle .networkStep, .handle .networkStep,
    .cancel 1, .poll (.pickUp 1), .take, .handle .networkStep,
    .handle .networkStep]

theorem noneDead_throughout_lostPhone :
    Machine.Throughout step NoneDead {} lostPhone := by
  apply noneDead_throughout
  refine Machine.Guarded.cons rfl trivial ?_
  refine Machine.Guarded.cons rfl trivial ?_
  refine Machine.Guarded.cons rfl trivial ?_
  refine Machine.Guarded.cons rfl trivial ?_
  refine Machine.Guarded.cons rfl trivial ?_
  refine Machine.Guarded.cons rfl ?_ ?_
  · intro n _ _
    exact Or.inl ⟨NetworkWatch.phone.macAddress, rfl⟩
  · refine Machine.Guarded.cons rfl trivial ?_
    refine Machine.Guarded.cons rfl trivial ?_
    refine Machine.Guarded.cons rfl trivial ?_
    refine Machine.Guarded.cons rfl trivial ?_
    exact Machine.guarded_nil _ _ _

/-- A device that a request added stops answering, and stays registered. -/
theorem not_noneDead_added :
    ¬ forall actions, Machine.Throughout step NoneDead {} actions := by
  intro h
  have hlast := (h
    [.handle (.addDevice 0 "00008101" false),
      .handle (.addOpened 0 (.ok { id := 1, udid := "00008101" })),
      .handle (.addStep 0), .handle (.addStep 0), .handle (.addStep 0),
      .cancel 1]).last rfl
  refine hlast ?_ { id := 1, udid := "00008101" } (by decide) (by decide)
  constructor
  · intro canceler hcanceler
    cases hcanceler
  · rfl
  · rfl
  · rfl
  · intro request handler hhandler
    by_cases hrequest : request = 0
    · subst hrequest
      cases hhandler
      rfl
    · simp [Exposure.setAdd, Exposure.register, Exposure.send,
        Function.update_of_ne hrequest] at hhandler

end NetworkDaemon

end Watcher
end Rusbmux
