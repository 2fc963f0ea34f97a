import Rusbmux.UsbBackend.PollingStream

/-!
# Watching devices by polling

`watch_devices` of `rusb` on a system without hotplug notifications: the events
of the polling loop go over a channel, and the stream of the backend takes them
from there and gives out the ids.  The descriptor of a device that has arrived
is read again when its event is taken, and by then the device may be gone.
-/

namespace Rusbmux
namespace UsbBackend

open Foundation

structure PolledDevices where
  polling : PollingStream := {}
  /-- How many of the events sent were taken off the channel. -/
  taken : Nat := 0
  watch : WatchDevices := WatchDevices.start .rusb
  /-- The descriptor of the device could not be read when it last arrived. -/
  unread : UInt64 -> Bool := fun _ => false

namespace PolledDevices

inductive Action where
  | tick (tick : PollingStream.Tick)
  | next (vendorId : Option UInt16) (id : UInt64)

/-- The vendor is what the descriptor names when the event is taken. -/
def hotplugEvent (vendorId : Option UInt16) : UsbEvent -> HotplugEvent
  | .arrived device => .connected ⟨device.opaqueId, vendorId⟩
  | .left device => .disconnected device.opaqueId

def readAgain (s : PolledDevices) (vendorId : Option UInt16) :
    UsbEvent -> UInt64 -> Bool
  | .arrived device =>
      Function.update s.unread device.opaqueId
        (decide (vendorId ≠ some appleVid))
  | .left _ => s.unread

def step : Machine PolledDevices Action := fun s a =>
  match a with
  | .tick tick =>
      (PollingStream.step s.polling tick).map fun polling =>
        { s with polling := polling }
  | .next vendorId id =>
      s.polling.sent[s.taken]?.bind fun event =>
        (WatchDevices.step s.watch
            (.hotplug (hotplugEvent vendorId event) id)).map fun watch =>
          { s with
            taken := s.taken + 1
            watch := watch
            unread := s.readAgain vendorId event }

def seen (s : PolledDevices) : List UsbEvent :=
  s.polling.sent.take s.taken

def Settled (s : PolledDevices) : Prop :=
  s.polling.ended = false ∧ s.polling.pending = [] ∧
    s.taken = s.polling.sent.length

def listing (s : PolledDevices) : Action -> Option (List ListedDevice)
  | .tick tick => if s.polling.pending = [] then tick.devices else none
  | .next _ _ => none

/-- The last listing of a run that could be read, if there was one. -/
def lastListing (actions : List Action) : List ListedDevice :=
  (Machine.labels step listing {} actions).getLast?.getD []

def Listed (devices : List ListedDevice) (opaqueId : UInt64) : Prop :=
  exists listed, listed ∈ devices ∧ listed.vendorId = some appleVid ∧
    listed.device.opaqueId = opaqueId

/--
Every device has at most one id that is connected, and it has one exactly if it
is there by the events seen and was still there when its event was taken.  Those
are the devices of the last listing as soon as nothing is on its way.
-/
structure Mirrors (devices : List ListedDevice) (s : PolledDevices) : Prop where
  atMostOneId : s.watch.AtMostOneId
  connected_iff : forall opaqueId,
    (exists id, (opaqueId, id) ∈ Event.connectedNow s.watch.yielded) <->
      opaqueId ∈ UsbEvent.replay s.seen ∧ s.unread opaqueId = false
  settled : s.Settled -> forall opaqueId,
    (exists id, (opaqueId, id) ∈ Event.connectedNow s.watch.yielded) <->
      Listed devices opaqueId ∧ s.unread opaqueId = false

structure Invariant (s : PolledDevices) : Prop where
  polling : s.polling.Invariant
  taken_le : s.taken <= s.polling.sent.length
  listing : s.watch.listing = false
  watch : s.watch.Invariant
  mapped_iff : forall opaqueId,
    s.watch.devicesIdMap opaqueId ≠ none <->
      isOpen (marksOf UsbEvent.mark opaqueId s.seen) = true ∧
        s.unread opaqueId = false

variable {s t : PolledDevices}

theorem Invariant.start : Invariant {} where
  polling := PollingStream.Invariant.start
  taken_le := Nat.le_refl 0
  listing := rfl
  watch := WatchDevices.Invariant.start .rusb
  mapped_iff := by simp [seen, marksOf, WatchDevices.start]

/-!
## The marks of the next event
-/

theorem marks_arrived (device : Device) (log : List UsbEvent) :
    marksOf UsbEvent.mark device.opaqueId (log ++ [.arrived device]) =
      marksOf UsbEvent.mark device.opaqueId log ++ [true] := by
  have hmark : markFor UsbEvent.mark device.opaqueId (.arrived device) =
      some true := markFor_self rfl
  exact marksOf_concat_some hmark log

theorem isOpen_left (device : Device) (log : List UsbEvent) :
    isOpen (marksOf UsbEvent.mark device.opaqueId (log ++ [.left device])) =
      false := by
  have hmark : markFor UsbEvent.mark device.opaqueId (.left device) =
      some false := markFor_self rfl
  rw [marksOf_concat_some hmark, isOpen_concat]

theorem marks_other {event : UsbEvent} {opaqueId : UInt64}
    (hother : opaqueId ≠ event.opaqueId) (log : List UsbEvent) :
    marksOf UsbEvent.mark opaqueId (log ++ [event]) =
      marksOf UsbEvent.mark opaqueId log := by
  have hmark : markFor UsbEvent.mark opaqueId event = none := by
    cases event with
    | arrived device => exact markFor_of_ne rfl hother
    | left device => exact markFor_of_ne rfl hother
  exact marksOf_concat_none hmark log

/-!
## What a step does
-/

theorem sent_prefix {polling u : PollingStream} {tick : PollingStream.Tick}
    (hstep : PollingStream.step polling tick = some u) :
    polling.sent <+: u.sent := by
  rcases Machine.of_disabled_if hstep with ⟨_, hnext⟩
  cases hpending : polling.pending with
  | nil =>
      rw [hpending] at hnext
      cases hdevices : tick.devices with
      | none =>
          rw [hdevices] at hnext
          cases hnext
          exact List.prefix_refl _
      | some devices =>
          rw [hdevices] at hnext
          cases hnext
          exact List.prefix_refl _
  | cons event pending =>
      rw [hpending] at hnext
      cases hreceiving : tick.receiving with
      | true =>
          rw [hreceiving] at hnext
          cases hnext
          exact List.prefix_append _ _
      | false =>
          rw [hreceiving] at hnext
          cases hnext
          exact List.prefix_refl _

theorem invariant_tick (h : Invariant s) {tick : PollingStream.Tick}
    {polling : PollingStream}
    (hstep : PollingStream.step s.polling tick = some polling) :
    Invariant { s with polling := polling } := by
  rcases sent_prefix hstep with ⟨added, hsent⟩
  have hseen : polling.sent.take s.taken = s.seen := by
    rw [← hsent, List.take_append_of_le_length h.taken_le]
    rfl
  refine ⟨PollingStream.invariant_step h.polling hstep, ?_, h.listing, h.watch,
    ?_⟩
  · show s.taken <= polling.sent.length
    rw [← hsent, List.length_append]
    exact Nat.le_add_right_of_le h.taken_le
  · intro opaqueId
    show _ <-> isOpen (marksOf _ _ (polling.sent.take s.taken)) = true ∧ _
    rw [hseen]
    exact h.mapped_iff opaqueId

theorem seen_next {event : UsbEvent}
    (hevent : s.polling.sent[s.taken]? = some event) :
    s.polling.sent.take (s.taken + 1) = s.seen ++ [event] := by
  rw [List.take_add_one, hevent]
  rfl

theorem alternates_seen (h : Invariant s) {event : UsbEvent}
    (hevent : s.polling.sent[s.taken]? = some event) (opaqueId : UInt64) :
    Alternates (marksOf UsbEvent.mark opaqueId (s.seen ++ [event])) := by
  have hall := h.polling.sent opaqueId
  rw [← List.take_append_drop (s.taken + 1) s.polling.sent,
    seen_next hevent] at hall
  exact alternates_marksOf_of_append hall

theorem not_mapped_of_arrived (h : Invariant s) {device : Device}
    (hevent : s.polling.sent[s.taken]? = some (.arrived device)) :
    s.watch.devicesIdMap device.opaqueId = none := by
  have halternates := alternates_seen h hevent device.opaqueId
  rw [marks_arrived, alternates_concat] at halternates
  have hclosed : isOpen (marksOf UsbEvent.mark device.opaqueId s.seen) =
      false := by
    simpa using halternates.right
  by_contra hmapped
  have hopen := ((h.mapped_iff device.opaqueId).mp hmapped).left
  rw [hclosed] at hopen
  cases hopen

theorem arrive_cases {watch u : WatchDevices} {info : AnyDeviceInfo}
    {id : UInt64} (hstep : watch.arrive info id = some u) :
    (info.isApple = false ∧ u = watch) ∨
      (info.isApple = true ∧ u.listing = watch.listing ∧
        u.devicesIdMap =
          Function.update watch.devicesIdMap info.opaqueId (some id)) := by
  unfold WatchDevices.arrive at hstep
  cases happle : info.isApple with
  | false =>
      rw [happle] at hstep
      cases hstep
      exact Or.inl ⟨rfl, rfl⟩
  | true =>
      rw [happle, if_pos rfl] at hstep
      rcases WatchDevices.insert_eq_some hstep with ⟨_, rfl⟩
      exact Or.inr ⟨rfl, rfl, rfl⟩

theorem leave_map (watch : WatchDevices) (opaqueId : UInt64) :
    (watch.leave opaqueId).listing = watch.listing ∧
      (watch.leave opaqueId).devicesIdMap =
        Function.update watch.devicesIdMap opaqueId none := by
  unfold WatchDevices.leave
  cases hid : watch.devicesIdMap opaqueId with
  | none =>
      refine ⟨rfl, ?_⟩
      exact (Function.update_eq_self_iff.mpr hid.symm).symm
  | some id => exact ⟨rfl, rfl⟩

theorem invariant_arrived (h : Invariant s) {device : Device}
    (hevent : s.polling.sent[s.taken]? = some (.arrived device))
    {vendorId : Option UInt16} {id : UInt64} {watch : WatchDevices}
    (hstep : s.watch.arrive ⟨device.opaqueId, vendorId⟩ id = some watch) :
    Invariant { s with
      taken := s.taken + 1
      watch := watch
      unread := s.readAgain vendorId (.arrived device) } := by
  have hnew := not_mapped_of_arrived h hevent
  have hlength := (List.getElem?_eq_some_iff.mp hevent).fst
  have hlisting : watch.listing = false := by
    rcases arrive_cases hstep with ⟨_, rfl⟩ | ⟨_, hsame, _⟩
    · exact h.listing
    · rw [hsame]
      exact h.listing
  refine ⟨h.polling, hlength, hlisting, h.watch.arrive hstep fun _ => hnew, ?_⟩
  intro opaqueId
  show watch.devicesIdMap opaqueId ≠ none <->
    isOpen (marksOf _ _ (s.polling.sent.take (s.taken + 1))) = true ∧
      Function.update s.unread device.opaqueId _ opaqueId = false
  rw [seen_next hevent]
  by_cases hself : opaqueId = device.opaqueId
  · subst hself
    rw [marks_arrived, isOpen_concat, Function.update_self]
    rcases arrive_cases hstep with ⟨happle, rfl⟩ | ⟨happle, _, hmap⟩
    · have hvendor : vendorId ≠ some appleVid := of_decide_eq_false happle
      simp [hnew, hvendor]
    · have hvendor : vendorId = some appleVid := of_decide_eq_true happle
      simp [hmap, hvendor]
  · rw [marks_other hself, Function.update_of_ne hself, ← h.mapped_iff]
    rcases arrive_cases hstep with ⟨_, rfl⟩ | ⟨_, _, hmap⟩
    · rfl
    · rw [hmap, Function.update_of_ne hself]

theorem invariant_left (h : Invariant s) {device : Device}
    (hevent : s.polling.sent[s.taken]? = some (.left device))
    (vendorId : Option UInt16) :
    Invariant { s with
      taken := s.taken + 1
      watch := s.watch.leave device.opaqueId
      unread := s.readAgain vendorId (.left device) } := by
  rcases leave_map s.watch device.opaqueId with ⟨hlisting, hmap⟩
  refine ⟨h.polling, (List.getElem?_eq_some_iff.mp hevent).fst,
    hlisting.trans h.listing, h.watch.leave device.opaqueId, ?_⟩
  intro opaqueId
  show (s.watch.leave device.opaqueId).devicesIdMap opaqueId ≠ none <->
    isOpen (marksOf _ _ (s.polling.sent.take (s.taken + 1))) = true ∧
      s.unread opaqueId = false
  rw [seen_next hevent, hmap]
  by_cases hself : opaqueId = device.opaqueId
  · subst hself
    rw [isOpen_left]
    simp
  · rw [marks_other hself, Function.update_of_ne hself]
    exact h.mapped_iff opaqueId

theorem invariant_step {a : Action} (h : Invariant s)
    (hstep : step s a = some t) : Invariant t := by
  cases a with
  | tick tick =>
      rcases Option.map_eq_some_iff.mp hstep with ⟨polling, hpolling, rfl⟩
      exact invariant_tick h hpolling
  | next vendorId id =>
      rcases Option.bind_eq_some_iff.mp hstep with ⟨event, hevent, hnext⟩
      rcases Option.map_eq_some_iff.mp hnext with ⟨watch, hwatch, rfl⟩
      cases event with
      | arrived device =>
          exact invariant_arrived h hevent (Machine.of_disabled_if hwatch).right
      | left device =>
          cases (Machine.of_disabled_if hwatch).right
          exact invariant_left h hevent vendorId

/-!
## Runs
-/

theorem Invariant.connected_iff (h : Invariant s) (opaqueId : UInt64) :
    (exists id, (opaqueId, id) ∈ Event.connectedNow s.watch.yielded) <->
      opaqueId ∈ UsbEvent.replay s.seen ∧ s.unread opaqueId = false := by
  rw [UsbEvent.mem_replay_iff, ← h.mapped_iff, Option.ne_none_iff_exists']
  simp only [h.watch.connected_iff]

theorem mem_insert_iff {m : DeviceMap} {device : Device} {opaqueId : UInt64} :
    opaqueId ∈ (m.insert device).entries <->
      opaqueId = device.opaqueId ∨ opaqueId ∈ m.entries :=
  AList.mem_insert m.entries

theorem mem_current_iff (devices : List ListedDevice) (opaqueId : UInt64) :
    opaqueId ∈ (PollingStream.current devices).entries <->
      Listed devices opaqueId := by
  unfold PollingStream.current
  induction devices using List.reverseRecOn with
  | nil => simp [Listed, DeviceMap.empty]
  | append_singleton devices listed ih =>
      rw [List.foldl_concat]
      by_cases hvendor : listed.vendorId = some appleVid
      · rw [if_pos hvendor, mem_insert_iff, ih]
        simp [Listed, hvendor, or_comm, or_and_right, exists_or, eq_comm]
      · rw [if_neg hvendor, ih]
        simp [Listed, hvendor, or_and_right, exists_or]

def Knows (devices : List ListedDevice) (s : PolledDevices) : Prop :=
  forall opaqueId, opaqueId ∈ s.polling.known.entries <->
    Listed devices opaqueId

theorem knows_start : Knows [] {} := by
  intro opaqueId
  simp [Listed, DeviceMap.empty]

theorem knows_step {devices : List ListedDevice} {a : Action}
    (h : Knows devices s) (hstep : step s a = some t) :
    Knows ((listing s a).getD devices) t := by
  cases a with
  | next vendorId id =>
      rcases Option.bind_eq_some_iff.mp hstep with ⟨event, _, hnext⟩
      rcases Option.map_eq_some_iff.mp hnext with ⟨watch, _, rfl⟩
      exact h
  | tick tick =>
      rcases Option.map_eq_some_iff.mp hstep with ⟨polling, hpolling, rfl⟩
      have hnext := (Machine.of_disabled_if hpolling).right
      cases hpending : s.polling.pending with
      | cons event pending =>
          rw [listing, if_neg (by simp [hpending])]
          rw [hpending] at hnext
          cases hreceiving : tick.receiving with
          | true =>
              rw [hreceiving] at hnext
              cases hnext
              exact h
          | false =>
              rw [hreceiving] at hnext
              cases hnext
              exact h
      | nil =>
          rw [listing, if_pos hpending]
          rw [hpending] at hnext
          cases hdevices : tick.devices with
          | none =>
              rw [hdevices] at hnext
              cases hnext
              exact h
          | some devices =>
              rw [hdevices] at hnext
              cases hnext
              exact mem_current_iff devices

theorem knows_run {devices : List ListedDevice} {actions : List Action}
    (h : Knows devices s) (hrun : Machine.run step s actions = some t) :
    Knows ((Machine.labels step listing s actions).getLast?.getD devices)
      t := by
  induction actions generalizing s devices with
  | nil =>
      cases hrun
      exact h
  | cons a rest ih =>
      rcases Machine.run_cons_some hrun with ⟨u, hstep, hrest⟩
      have hlast := ih (knows_step h hstep) hrest
      rw [Machine.labels_cons_of_step hstep]
      cases hlisting : listing s a with
      | none =>
          rw [hlisting] at hlast
          exact hlast
      | some listed =>
          rw [hlisting] at hlast
          rw [Option.toList_some, List.singleton_append, List.getLast?_cons]
          exact hlast

theorem Invariant.mirrors (h : Invariant s) {devices : List ListedDevice}
    (hknows : Knows devices s) : s.Mirrors devices where
  atMostOneId := h.watch.atMostOneId
  connected_iff := h.connected_iff
  settled := by
    intro hsettled opaqueId
    rcases hsettled with ⟨hrunning, hpending, htaken⟩
    have hknown := h.polling.consistent.left hrunning
    have hseen : s.seen = s.polling.sent ++ s.polling.pending := by
      rw [hpending, List.append_nil, seen, htaken, List.take_length]
    rw [h.connected_iff, hseen, hknown, List.mem_toFinset, ← hknows opaqueId]
    rfl

/--
After every run, whatever is listed and however long the events stay on the
channel, the ids that are connected are those of the devices there.
-/
theorem mirrors_of_run {actions : List Action}
    (hrun : Machine.run step {} actions = some t) :
    t.Mirrors (lastListing actions) :=
  (Machine.run_invariant (fun _ _ _ => invariant_step) Invariant.start
    hrun).mirrors (knows_run knows_start hrun)

def phone : Device := { busNumber := 1, address := 5 }

def tablet : Device := { busNumber := 1, address := 9 }

def tickOf (devices : Option (List Device)) : Action :=
  .tick {
    receiving := true
    devices := devices.map (List.map fun device =>
      { device := device, vendorId := some appleVid })
    currentOrder := default
    knownOrder := default
  }

def tabletForPhone : List Action :=
  [tickOf (some [phone]), tickOf none, .next (some appleVid) 1, tickOf none,
    tickOf (some [tablet]), tickOf (some [phone]), tickOf none, .next none 2,
    .next none 2]

def tabletForPhoneEnd : PolledDevices :=
  (Machine.run step {} tabletForPhone).getD {}

theorem run_tabletForPhone :
    Machine.run step {} tabletForPhone = some tabletForPhoneEnd := rfl

theorem mirrors_of_run_tabletForPhone :
    tabletForPhoneEnd.Mirrors (lastListing tabletForPhone) :=
  mirrors_of_run run_tabletForPhone

example : tabletForPhoneEnd.watch.yielded.length = 2 ∧
    (lastListing tabletForPhone).map (·.device) = [tablet] := by
  decide

end PolledDevices

end UsbBackend
end Rusbmux
