import Mathlib.Data.List.Infix
import Mathlib.Logic.Function.Basic
import Rusbmux.Foundation.Machine

/-!
# The ids of plugged-in devices

`watch_devices` of the two USB backends.  Each backend draws an id for every
device that arrives and keeps it under the opaque id of the device until the
device leaves.  The stream of `nusb` starts with the devices that are listed
when it is first polled; the stream of `rusb` gets all of them as notifications.
The devices that arrive and leave are part of the action.
-/

namespace Rusbmux
namespace UsbBackend

open Foundation

def appleVid : UInt16 := 0x5ac

structure AnyDeviceInfo where
  opaqueId : UInt64
  vendorId : Option UInt16
deriving DecidableEq, Repr

def AnyDeviceInfo.isApple (info : AnyDeviceInfo) : Bool :=
  info.vendorId = some appleVid

inductive HotplugEvent where
  | connected (info : AnyDeviceInfo)
  | disconnected (opaqueId : UInt64)
deriving DecidableEq, Repr

inductive Event where
  | connected (info : AnyDeviceInfo) (id : UInt64)
  | disconnected (id : UInt64)
deriving DecidableEq, Repr

def Event.connectedNow : List Event -> List (UInt64 × UInt64)
  | [] => []
  | .connected info id :: rest => (info.opaqueId, id) :: connectedNow rest
  | .disconnected id :: rest =>
      (connectedNow rest).filter fun entry => entry.snd ≠ id

inductive Backend where
  | nusb
  | rusb
deriving DecidableEq, Repr

structure WatchDevices where
  listing : Bool
  devicesIdMap : UInt64 -> Option UInt64 := fun _ => none
  issued : List UInt64 := []
  yielded : List Event := []

namespace WatchDevices

def start : Backend -> WatchDevices
  | .nusb => { listing := true }
  | .rusb => { listing := false }

inductive Action where
  | listed (info : AnyDeviceInfo) (id : UInt64)
  | endOfList
  | hotplug (event : HotplugEvent) (id : UInt64)

def insert (s : WatchDevices) (info : AnyDeviceInfo) (id : UInt64) :
    Option WatchDevices :=
  if id ∈ s.issued then none
  else
    some { s with
      devicesIdMap := Function.update s.devicesIdMap info.opaqueId (some id)
      issued := id :: s.issued
      yielded := .connected info id :: s.yielded }

def arrive (s : WatchDevices) (info : AnyDeviceInfo) (id : UInt64) :
    Option WatchDevices :=
  if info.isApple then s.insert info id else some s

def leave (s : WatchDevices) (opaqueId : UInt64) : WatchDevices :=
  match s.devicesIdMap opaqueId with
  | none => s
  | some id =>
      { s with
        devicesIdMap := Function.update s.devicesIdMap opaqueId none
        yielded := .disconnected id :: s.yielded }

def step : Machine WatchDevices Action := fun s a =>
  match a with
  | .listed info id => if s.listing then s.arrive info id else none
  | .endOfList => if s.listing then some { s with listing := false } else none
  | .hotplug (.connected info) id =>
      if s.listing then none else s.arrive info id
  | .hotplug (.disconnected opaqueId) _ =>
      if s.listing then none else some (s.leave opaqueId)

/-- Every opaque id has at most one id that is connected. -/
def AtMostOneId (s : WatchDevices) : Prop :=
  forall opaqueId id other, (opaqueId, id) ∈ Event.connectedNow s.yielded ->
    (opaqueId, other) ∈ Event.connectedNow s.yielded -> id = other

/-- After a device has left, no id of it is connected. -/
def LeavesNoId (_ : WatchDevices) (a : Action) (t : WatchDevices) : Prop :=
  match a with
  | .hotplug (.disconnected opaqueId) _ =>
      forall id, (opaqueId, id) ∉ Event.connectedNow t.yielded
  | _ => True

def Action.arrival : Action -> Option AnyDeviceInfo
  | .listed info _ | .hotplug (.connected info) _ =>
      if info.isApple then some info else none
  | .endOfList | .hotplug (.disconnected _) _ => none

/-- A device arrives only if it has left since it last arrived. -/
def ArrivesAnew (s : WatchDevices) (a : Action) : Prop :=
  forall info, a.arrival = some info -> s.devicesIdMap info.opaqueId = none

/-!
## The map and the connected ids
-/

structure Invariant (s : WatchDevices) : Prop where
  connected_iff : forall opaqueId id,
    (opaqueId, id) ∈ Event.connectedNow s.yielded <->
      s.devicesIdMap opaqueId = some id
  injective : forall opaqueId other id, s.devicesIdMap opaqueId = some id ->
    s.devicesIdMap other = some id -> opaqueId = other
  issued : forall opaqueId id, s.devicesIdMap opaqueId = some id ->
    id ∈ s.issued

variable {s t : WatchDevices}

theorem Invariant.start (backend : Backend) : Invariant (start backend) := by
  cases backend with
  | nusb => constructor <;> simp [WatchDevices.start, Event.connectedNow]
  | rusb => constructor <;> simp [WatchDevices.start, Event.connectedNow]

theorem Invariant.of_eq (h : Invariant s)
    (hmap : t.devicesIdMap = s.devicesIdMap) (hissued : t.issued = s.issued)
    (hyielded : t.yielded = s.yielded) : Invariant t := by
  constructor
  · rw [hmap, hyielded]
    exact h.connected_iff
  · rw [hmap]
    exact h.injective
  · rw [hmap, hissued]
    exact h.issued

theorem Invariant.atMostOneId (h : Invariant s) : s.AtMostOneId := by
  intro opaqueId id other hid hother
  have hmap := (h.connected_iff opaqueId id).mp hid
  have hmap' := (h.connected_iff opaqueId other).mp hother
  rw [hmap] at hmap'
  exact Option.some.inj hmap'

theorem insert_eq_some {info : AnyDeviceInfo} {id : UInt64}
    (hstep : s.insert info id = some t) :
    id ∉ s.issued ∧
      t =
        { s with
          devicesIdMap := Function.update s.devicesIdMap info.opaqueId (some id)
          issued := id :: s.issued
          yielded := .connected info id :: s.yielded } := by
  rcases Machine.of_disabled_if hstep with ⟨hfresh, hnext⟩
  exact ⟨hfresh, (Option.some.inj hnext).symm⟩

theorem Invariant.insert (h : Invariant s) {info : AnyDeviceInfo}
    {id : UInt64} (hstep : s.insert info id = some t)
    (hanew : s.devicesIdMap info.opaqueId = none) : Invariant t := by
  rcases insert_eq_some hstep with ⟨hfresh, rfl⟩
  have hold : forall opaqueId, s.devicesIdMap opaqueId ≠ some id :=
    fun opaqueId hmap => hfresh (h.issued opaqueId id hmap)
  constructor
  · intro opaqueId other
    show (opaqueId, other) ∈ (info.opaqueId, id) :: _ <-> _
    rw [List.mem_cons, h.connected_iff]
    by_cases hsame : opaqueId = info.opaqueId
    · subst hsame
      simp [hanew, eq_comm]
    · simp [hsame]
  · intro opaqueId other key hmap hmap'
    rcases of_update_eq_some hmap with ⟨hsame, hkey⟩ | ⟨_, hstill⟩
    · rcases of_update_eq_some hmap' with ⟨hsame', _⟩ | ⟨_, hstill'⟩
      · exact hsame.trans hsame'.symm
      · rw [hkey] at hstill'
        exact absurd hstill' (hold other)
    · rcases of_update_eq_some hmap' with ⟨_, hkey'⟩ | ⟨_, hstill'⟩
      · rw [hkey'] at hstill
        exact absurd hstill (hold opaqueId)
      · exact h.injective opaqueId other key hstill hstill'
  · intro opaqueId key hmap
    rcases of_update_eq_some hmap with ⟨_, rfl⟩ | ⟨_, hmap⟩
    · exact List.mem_cons_self
    · exact List.mem_cons_of_mem _ (h.issued opaqueId key hmap)

theorem Invariant.arrive (h : Invariant s) {info : AnyDeviceInfo}
    {id : UInt64} (hstep : s.arrive info id = some t)
    (hanew : info.isApple = true -> s.devicesIdMap info.opaqueId = none) :
    Invariant t := by
  unfold WatchDevices.arrive at hstep
  cases happle : info.isApple with
  | true =>
      rw [happle, if_pos rfl] at hstep
      exact h.insert hstep (hanew happle)
  | false =>
      rw [happle] at hstep
      cases hstep
      exact h

theorem Invariant.leave (h : Invariant s) (opaqueId : UInt64) :
    Invariant (s.leave opaqueId) := by
  unfold WatchDevices.leave
  cases hid : s.devicesIdMap opaqueId with
  | none => exact h
  | some id =>
      constructor
      · intro key other
        show (key, other) ∈ (Event.connectedNow s.yielded).filter
            (fun entry => entry.snd ≠ id) <->
          Function.update s.devicesIdMap opaqueId none key = some other
        rw [List.mem_filter, h.connected_iff]
        by_cases hsame : key = opaqueId
        · subst hsame
          rw [Function.update_self, hid]
          constructor
          · intro hboth
            have hsame := Option.some.inj hboth.left
            exact absurd hsame.symm (of_decide_eq_true hboth.right)
          · intro hmap
            cases hmap
        · have hne : forall other, s.devicesIdMap key = some other ->
              other ≠ id := by
            intro other hmap hsameId
            subst hsameId
            exact hsame (h.injective key opaqueId other hmap hid)
          simp only [Function.update_of_ne hsame, decide_eq_true_eq]
          constructor
          · intro hboth
            exact hboth.left
          · intro hmap
            exact ⟨hmap, hne other hmap⟩
      · intro key other value hmap hmap'
        exact h.injective key other value (of_update_none_eq_some hmap).right
          (of_update_none_eq_some hmap').right
      · intro key value hmap
        exact h.issued key value (of_update_none_eq_some hmap).right

theorem Invariant.leavesNoId (h : Invariant s) (opaqueId id : UInt64) :
    (opaqueId, id) ∉ Event.connectedNow (s.leave opaqueId).yielded := by
  rw [(h.leave opaqueId).connected_iff]
  unfold WatchDevices.leave
  cases hid : s.devicesIdMap opaqueId with
  | none => simp [hid]
  | some id => simp

/-!
## Runs
-/

theorem invariant_step {a : Action} (h : Invariant s)
    (hstep : step s a = some t) (hanew : s.ArrivesAnew a) : Invariant t := by
  cases a with
  | listed info id =>
      apply h.arrive (Machine.of_enabled_if hstep).right
      intro happle
      exact hanew info (if_pos happle)
  | endOfList =>
      cases (Machine.of_enabled_if hstep).right
      exact h.of_eq rfl rfl rfl
  | hotplug event id =>
      cases event with
      | connected info =>
          apply h.arrive (Machine.of_disabled_if hstep).right
          intro happle
          exact hanew info (if_pos happle)
      | disconnected opaqueId =>
          cases (Machine.of_disabled_if hstep).right
          exact h.leave opaqueId

theorem step_leavesNoId {a : Action} (h : Invariant s)
    (hstep : step s a = some t) : LeavesNoId s a t := by
  cases a with
  | listed info id => trivial
  | endOfList => trivial
  | hotplug event id =>
      cases event with
      | connected info => trivial
      | disconnected opaqueId =>
          cases (Machine.of_disabled_if hstep).right
          exact h.leavesNoId opaqueId

theorem arrival_eq_some {a : Action} {info : AnyDeviceInfo}
    (harrival : a.arrival = some info) (hstep : step s a = some t) :
    exists id, s.insert info id = some t := by
  cases a with
  | listed other id =>
      rcases Machine.of_enabled_if harrival with ⟨happle, hother⟩
      cases hother
      have harrive := (Machine.of_enabled_if hstep).right
      rw [WatchDevices.arrive, if_pos happle] at harrive
      exact ⟨id, harrive⟩
  | endOfList => cases harrival
  | hotplug event id =>
      cases event with
      | connected other =>
          rcases Machine.of_enabled_if harrival with ⟨happle, hother⟩
          cases hother
          have harrive := (Machine.of_disabled_if hstep).right
          rw [WatchDevices.arrive, if_pos happle] at harrive
          exact ⟨id, harrive⟩
      | disconnected opaqueId => cases harrival

theorem not_atMostOneId_of_again {a : Action} (h : Invariant s)
    (hstep : step s a = some t) (hagain : ¬ s.ArrivesAnew a) :
    ¬ t.AtMostOneId := by
  intro hone
  apply hagain
  intro info harrival
  rcases arrival_eq_some harrival hstep with ⟨id, hinsert⟩
  rcases insert_eq_some hinsert with ⟨hfresh, rfl⟩
  cases hmap : s.devicesIdMap info.opaqueId with
  | none => rfl
  | some old =>
      have hold := (h.connected_iff info.opaqueId old).mpr hmap
      have hsame := hone info.opaqueId id old List.mem_cons_self
        (List.mem_cons_of_mem _ hold)
      subst hsame
      exact absurd (h.issued info.opaqueId id hmap) hfresh

/--
At every point of a run of a backend an opaque id has at most one id that is
connected, and none after its device has left, exactly if every device that
arrives has left since it last arrived.
-/
theorem bookkeeping_iff (backend : Backend) (actions : List Action) :
    (Machine.Throughout step AtMostOneId (start backend) actions ∧
        Machine.Stepwise step LeavesNoId (start backend) actions) <->
      Machine.Guarded step ArrivesAnew (start backend) actions := by
  have hiff : Machine.Throughout step AtMostOneId (start backend) actions <->
      Machine.Guarded step ArrivesAnew (start backend) actions :=
    Machine.throughout_iff_guarded (fun _ h => Invariant.atMostOneId h)
      (fun _ _ _ h hstep hanew => invariant_step h hstep hanew)
      (fun _ _ _ h hstep hagain => not_atMostOneId_of_again h hstep hagain)
      (Invariant.start backend) actions
  constructor
  · intro h
    exact hiff.mp h.left
  · intro hguarded
    have hinvariant : Machine.Throughout step Invariant (start backend)
        actions :=
      Machine.throughout_of_guarded
        (fun _ _ _ h hstep hanew => invariant_step h hstep hanew)
        (Invariant.start backend) hguarded
    constructor
    · exact hiff.mpr hguarded
    · intro pre a s t hpre hrun hstep
      have hprefix : pre <+: actions :=
        (List.prefix_append pre [a]).trans hpre
      exact step_leavesNoId (hinvariant pre s hprefix hrun) hstep

/-- A device that is in the initial list and in a notification has two ids. -/
theorem not_bookkeeping_listedAndNotified :
    ¬ forall backend actions,
      Machine.Throughout step AtMostOneId (start backend) actions ∧
        Machine.Stepwise step LeavesNoId (start backend) actions := by
  intro h
  let phone : AnyDeviceInfo := { opaqueId := 0x0105, vendorId := some appleVid }
  have hlast := (h .nusb
    [.listed phone 1, .endOfList, .hotplug (.connected phone) 2]).left.last rfl
  have hsame := hlast 0x0105 1 2 (by decide) (by decide)
  revert hsame
  decide

end WatchDevices

end UsbBackend
end Rusbmux
