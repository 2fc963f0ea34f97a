import Mathlib.Data.Finset.Basic
import Mathlib.Data.List.AList
import Rusbmux.Foundation.Alternation
import Rusbmux.UsbBackend.WatchDevices

/-!
# Hotplug by polling

The loop of `PollingStream`, for systems without hotplug notifications.  A tick
either sends one event that is pending or lists the devices and makes the
differences to the last listing pending.  The listings are actions, and so are
the orders in which the hash maps are iterated, which no tick can foresee.
-/

namespace Rusbmux
namespace UsbBackend

open Foundation

structure Device where
  busNumber : UInt8
  address : UInt8
deriving DecidableEq, Repr

def Device.opaqueId (device : Device) : UInt64 :=
  (device.busNumber.toUInt64 <<< 8) ||| device.address.toUInt64

inductive UsbEvent where
  | arrived (device : Device)
  | left (device : Device)
deriving DecidableEq, Repr

namespace UsbEvent

def opaqueId : UsbEvent -> UInt64
  | arrived device => device.opaqueId
  | left device => device.opaqueId

def mark : UsbEvent -> Option (UInt64 × Bool)
  | arrived device => some (device.opaqueId, true)
  | left device => some (device.opaqueId, false)

def apply (ids : Finset UInt64) : UsbEvent -> Finset UInt64
  | arrived device => insert device.opaqueId ids
  | left device => ids.erase device.opaqueId

def replay (events : List UsbEvent) : Finset UInt64 :=
  events.foldl apply ∅

end UsbEvent

/-!
## Maps of devices
-/

abbrev DeviceEntry : Type := Sigma fun _ : UInt64 => Device

structure DeviceMap where
  entries : AList fun _ : UInt64 => Device
  keyed : forall entry, entry ∈ entries.entries ->
    entry.fst = entry.snd.opaqueId

namespace DeviceMap

def empty : DeviceMap where
  entries := ∅
  keyed := by simp

def insert (m : DeviceMap) (device : Device) : DeviceMap where
  entries := m.entries.insert device.opaqueId device
  keyed := by
    intro entry hentry
    rw [AList.entries_insert, List.mem_cons] at hentry
    rcases hentry with rfl | hold
    · rfl
    · exact m.keyed entry ((List.kerase_sublist _ _).mem hold)

def containsKey (m : DeviceMap) (id : UInt64) : Bool :=
  decide (id ∈ m.entries)

structure IterationOrder where
  visit : DeviceMap -> List DeviceEntry
  perm : forall m, (visit m).Perm m.entries.entries

instance : Inhabited IterationOrder where
  default := { visit := fun m => m.entries.entries, perm := fun _ => .refl _ }

def without (order : IterationOrder) (m other : DeviceMap) :
    List DeviceEntry :=
  (order.visit m).filter fun entry => !other.containsKey entry.fst

end DeviceMap

/-!
## The loop
-/

structure ListedDevice where
  device : Device
  vendorId : Option UInt16
deriving DecidableEq, Repr

structure PollingStream where
  known : DeviceMap := .empty
  pending : List UsbEvent := []
  sent : List UsbEvent := []
  ended : Bool := false

namespace PollingStream

/-- What a tick meets. -/
structure Tick where
  receiving : Bool
  /-- What `rusb::devices` returns, unless it fails. -/
  devices : Option (List ListedDevice)
  currentOrder : DeviceMap.IterationOrder
  knownOrder : DeviceMap.IterationOrder

def current (devices : List ListedDevice) : DeviceMap :=
  devices.foldl (fun current listed =>
      if listed.vendorId = some appleVid then current.insert listed.device
      else current)
    .empty

def arrivals (order : DeviceMap.IterationOrder) (current known : DeviceMap) :
    List UsbEvent :=
  (DeviceMap.without order current known).map fun entry => .arrived entry.snd

def departures (order : DeviceMap.IterationOrder) (current known : DeviceMap) :
    List UsbEvent :=
  (DeviceMap.without order known current).map fun entry => .left entry.snd

def list (s : PollingStream) (tick : Tick) (devices : List ListedDevice) :
    PollingStream :=
  { s with
    known := current devices
    pending := s.pending ++
      arrivals tick.currentOrder (current devices) s.known ++
      departures tick.knownOrder (current devices) s.known }

def step : Machine PollingStream Tick := fun s tick =>
  if s.ended then none
  else
    match s.pending with
    | event :: pending =>
        if tick.receiving then
          some { s with pending := pending, sent := s.sent ++ [event] }
        else
          some { s with pending := pending, ended := true }
    | [] =>
        match tick.devices with
        | none => some s
        | some devices => some (s.list tick devices)

/-- The events lead to the known ids, and those sent alternate for every id. -/
def Consistent (s : PollingStream) : Prop :=
  (s.ended = false ->
    UsbEvent.replay (s.sent ++ s.pending) = s.known.entries.keys.toFinset) ∧
    forall id, Alternates (marksOf UsbEvent.mark id s.sent)

end PollingStream

/-!
## Replaying events
-/

theorem UsbEvent.mem_replay_iff (events : List UsbEvent) (id : UInt64) :
    id ∈ replay events <-> isOpen (marksOf mark id events) = true := by
  induction events using List.reverseRecOn with
  | nil => simp [replay, marksOf]
  | append_singleton events event ih =>
      have hreplay : replay (events ++ [event]) = apply (replay events) event :=
        List.foldl_concat ..
      rw [hreplay]
      by_cases hid : event.opaqueId = id
      · cases event with
        | arrived device =>
            have hmark : markFor mark id (.arrived device) = some true :=
              markFor_self (by rw [← hid]; rfl)
            rw [marksOf_concat_some hmark, isOpen_concat, ← hid]
            simp [apply, opaqueId]
        | left device =>
            have hmark : markFor mark id (.left device) = some false :=
              markFor_self (by rw [← hid]; rfl)
            rw [marksOf_concat_some hmark, isOpen_concat, ← hid]
            simp [apply, opaqueId]
      · have hmark : markFor mark id event = none := by
          cases event with
          | arrived device => exact markFor_of_ne rfl (Ne.symm hid)
          | left device => exact markFor_of_ne rfl (Ne.symm hid)
        rw [marksOf_concat_none hmark, ← ih]
        cases event with
        | arrived device =>
            change device.opaqueId ≠ id at hid
            simp [apply, hid.symm]
        | left device =>
            change device.opaqueId ≠ id at hid
            simp [apply, hid.symm]

/-!
## Differences of two maps
-/

namespace DeviceMap

variable {order : IterationOrder} {m other : DeviceMap}

theorem mem_without_iff {entry : DeviceEntry} :
    entry ∈ without order m other <->
      entry ∈ m.entries.entries ∧ entry.fst ∉ other.entries := by
  unfold without
  rw [List.mem_filter, (order.perm m).mem_iff]
  simp [containsKey]

theorem map_opaqueId_without {event : Device -> UsbEvent}
    (hevent : forall device, (event device).opaqueId = device.opaqueId) :
    ((without order m other).map fun entry => event entry.snd).map
        UsbEvent.opaqueId =
      (without order m other).map Sigma.fst := by
  rw [List.map_map]
  apply List.map_congr_left
  intro entry hentry
  rw [m.keyed entry (mem_without_iff.mp hentry).left]
  exact hevent entry.snd

theorem nodup_without : ((without order m other).map Sigma.fst).Nodup := by
  have hvisit : ((order.visit m).map Sigma.fst).Nodup :=
    ((order.perm m).map Sigma.fst).nodup_iff.mpr m.entries.keys_nodup
  exact hvisit.sublist (List.filter_sublist.map Sigma.fst)

theorem mem_map_without_iff {id : UInt64} :
    id ∈ (without order m other).map Sigma.fst <->
      id ∈ m.entries.keys ∧ id ∉ other.entries.keys := by
  rw [List.mem_map]
  constructor
  · intro h
    rcases h with ⟨entry, hentry, rfl⟩
    rcases mem_without_iff.mp hentry with ⟨hmem, hother⟩
    exact ⟨List.mem_keys_of_mem hmem, hother⟩
  · intro h
    rcases List.exists_of_mem_keys h.left with ⟨device, hmem⟩
    exact ⟨⟨id, device⟩, mem_without_iff.mpr ⟨hmem, h.right⟩, rfl⟩

end DeviceMap

/-!
## Runs
-/

namespace PollingStream

variable {s t : PollingStream}

structure Invariant (s : PollingStream) : Prop where
  sent : forall id, Alternates (marksOf UsbEvent.mark id s.sent)
  known : s.ended = false ->
    Alternating UsbEvent.mark (s.sent ++ s.pending) s.known.entries.keys

theorem Invariant.start : Invariant {} where
  sent := fun _ => alternates_nil
  known := fun _ => Alternating.nil

theorem Invariant.consistent (h : Invariant s) : s.Consistent := by
  constructor
  · intro hrunning
    ext id
    rw [UsbEvent.mem_replay_iff, (h.known hrunning id).right, List.mem_toFinset]
  · exact h.sent

theorem alternating_list {log : List UsbEvent} {known current : DeviceMap}
    (h : Alternating UsbEvent.mark log known.entries.keys)
    (currentOrder knownOrder : DeviceMap.IterationOrder) :
    Alternating UsbEvent.mark
      (log ++ (arrivals currentOrder current known ++
        departures knownOrder current known)) current.entries.keys := by
  have harrived : forall event,
      event ∈ arrivals currentOrder current known ->
        UsbEvent.mark event = some (event.opaqueId, true) := by
    intro event hevent
    rcases List.mem_map.mp hevent with ⟨entry, _, rfl⟩
    rfl
  have hleft : forall event,
      event ∈ departures knownOrder current known ->
        UsbEvent.mark event = some (event.opaqueId, false) := by
    intro event hevent
    rcases List.mem_map.mp hevent with ⟨entry, _, rfl⟩
    rfl
  have harrivals : (arrivals currentOrder current known).map
      UsbEvent.opaqueId = _ :=
    DeviceMap.map_opaqueId_without fun _ => rfl
  have hdepartures : (departures knownOrder current known).map
      UsbEvent.opaqueId = _ :=
    DeviceMap.map_opaqueId_without fun _ => rfl
  have hfits : Fits UsbEvent.mark known.entries.keys
      (arrivals currentOrder current known ++
        departures knownOrder current known) := by
    apply fits_append.mpr
    constructor
    · apply fits_openings harrived
      · rw [harrivals]
        exact DeviceMap.nodup_without
      · intro id hid
        rw [harrivals] at hid
        exact (DeviceMap.mem_map_without_iff.mp hid).right
    · apply fits_closings hleft
      · rw [hdepartures]
        exact DeviceMap.nodup_without
      · intro id hid
        rw [hdepartures] at hid
        exact (mem_openings harrived id).mpr
          (Or.inl (DeviceMap.mem_map_without_iff.mp hid).left)
  apply (h.append hfits).of_mem_iff
  intro id
  rw [List.foldl_append, mem_closings hleft, mem_openings harrived, harrivals,
    hdepartures, DeviceMap.mem_map_without_iff, DeviceMap.mem_map_without_iff]
  tauto

theorem Invariant.list (h : Invariant s) (hrunning : s.ended = false)
    (hpending : s.pending = []) (tick : Tick) (devices : List ListedDevice) :
    Invariant (s.list tick devices) where
  sent := h.sent
  known := by
    intro _
    have hlog := h.known hrunning
    rw [hpending, List.append_nil] at hlog
    show Alternating UsbEvent.mark (s.sent ++ (s.pending ++ _ ++ _)) _
    rw [hpending, List.nil_append]
    exact alternating_list hlog tick.currentOrder tick.knownOrder

theorem invariant_step {tick : Tick} (h : Invariant s)
    (hstep : step s tick = some t) : Invariant t := by
  rcases Machine.of_disabled_if hstep with ⟨hended, hnext⟩
  have hrunning : s.ended = false := Bool.eq_false_iff.mpr hended
  have hlog := h.known hrunning
  cases hpending : s.pending with
  | nil =>
      rw [hpending] at hnext
      cases hdevices : tick.devices with
      | none =>
          rw [hdevices] at hnext
          cases hnext
          exact h
      | some devices =>
          rw [hdevices] at hnext
          cases hnext
          exact h.list hrunning hpending tick devices
  | cons event pending =>
      rw [hpending] at hnext hlog
      cases hreceiving : tick.receiving with
      | true =>
          rw [hreceiving] at hnext
          cases hnext
          rw [List.append_cons] at hlog
          constructor
          · intro id
            exact alternates_marksOf_of_append (hlog id).left
          · intro _
            exact hlog
      | false =>
          rw [hreceiving] at hnext
          cases hnext
          constructor
          · exact h.sent
          · intro hstill
            cases hstill

theorem step_isSome_iff (s : PollingStream) (tick : Tick) :
    (step s tick).isSome = true <-> s.ended = false := by
  unfold step
  cases s.ended with
  | true => simp
  | false =>
      rw [if_neg Bool.false_ne_true]
      cases s.pending with
      | nil => cases tick.devices <;> simp
      | cons event pending => cases tick.receiving <;> simp

theorem consistent_throughout (ticks : List Tick) :
    Machine.Throughout step Consistent {} ticks := by
  intro pre t _ hrun
  exact (Machine.run_invariant (fun _ _ _ h hstep => invariant_step h hstep)
    Invariant.start hrun).consistent

example :
    let phone : Device := { busNumber := 1, address := 5 }
    let tick (devices : List ListedDevice) : Tick :=
      { receiving := true, devices := some devices, currentOrder := default,
        knownOrder := default }
    let listing := [{ device := phone, vendorId := some appleVid }]
    (Machine.run step {} [tick listing, tick [], tick [], tick []]).map sent =
      some [.arrived phone, .left phone] := by
  decide

end PollingStream

end UsbBackend
end Rusbmux
