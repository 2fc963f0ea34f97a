import Rusbmux.Watcher.Exposure

/-!
# What a listener is left with

A listener holds the devices it was told of and has a queue of events to take.
`keeps` follows one id through the queue: it is kept depending on whether the id
is held at the start and whether it is registered when its attachments are
taken.  `Watched` is the invariant of a listener against the registry and the
handlers, and the rules say what a step of theirs does to it.
-/

namespace Rusbmux
namespace Watcher

namespace Exposure

/-!
## One id through the queue
-/

def keepsEvent (registered : Bool) (id : UInt64) (holds : Bool) :
    DeviceEvent -> Bool
  | .attached other => if other = id then holds || registered else holds
  | .detached other => if other = id then false else holds

theorem keepsEvent_attached (registered : Bool) (id other : UInt64)
    (holds : Bool) :
    keepsEvent registered id holds (.attached other) =
      if other = id then holds || registered else holds := rfl

theorem keepsEvent_detached (registered : Bool) (id other : UInt64)
    (holds : Bool) :
    keepsEvent registered id holds (.detached other) =
      if other = id then false else holds := rfl

def keeps (registered : Bool) (id : UInt64) (holds : Bool)
    (queue : List DeviceEvent) : Bool :=
  queue.foldl (keepsEvent registered id) holds

theorem keeps_cons (registered : Bool) (id : UInt64) (holds : Bool)
    (event : DeviceEvent) (rest : List DeviceEvent) :
    keeps registered id holds (event :: rest) =
      keeps registered id (keepsEvent registered id holds event) rest := rfl

theorem keeps_concat (registered : Bool) (id : UInt64) (holds : Bool)
    (queue : List DeviceEvent) (event : DeviceEvent) :
    keeps registered id holds (queue ++ [event]) =
      keepsEvent registered id (keeps registered id holds queue) event := by
  unfold keeps
  rw [List.foldl_append]
  rfl

theorem keepsEvent_mono {r r' h h' : Bool} (hr : r = true -> r' = true)
    (hh : h = true -> h' = true) {id : UInt64} {event : DeviceEvent}
    (hkeeps : keepsEvent r id h event = true) :
    keepsEvent r' id h' event = true := by
  cases event with
  | attached other =>
      unfold keepsEvent at hkeeps ⊢
      by_cases hid : other = id
      · simp only [if_pos hid, Bool.or_eq_true] at hkeeps ⊢
        exact hkeeps.imp hh hr
      · simp only [if_neg hid] at hkeeps ⊢
        exact hh hkeeps
  | detached other =>
      unfold keepsEvent at hkeeps ⊢
      by_cases hid : other = id
      · simp only [if_pos hid] at hkeeps
        cases hkeeps
      · simp only [if_neg hid] at hkeeps ⊢
        exact hh hkeeps

theorem keeps_mono {r r' h h' : Bool} (hr : r = true -> r' = true)
    (hh : h = true -> h' = true) {id : UInt64} {queue : List DeviceEvent}
    (hkeeps : keeps r id h queue = true) : keeps r' id h' queue = true := by
  induction queue generalizing h h' with
  | nil => exact hh hkeeps
  | cons event rest ih =>
      rw [keeps_cons] at hkeeps ⊢
      exact ih (fun hevent => keepsEvent_mono hr hh hevent) hkeeps

theorem keeps_false_of_unnamed {r : Bool} {id : UInt64}
    {queue : List DeviceEvent}
    (hqueue : forall event, event ∈ queue -> event ≠ .attached id) :
    keeps r id false queue = false := by
  induction queue with
  | nil => rfl
  | cons event rest ih =>
      rw [keeps_cons]
      have hevent : keepsEvent r id false event = false := by
        cases event with
        | attached other =>
            rw [keepsEvent_attached, if_neg]
            intro hid
            exact hqueue _ List.mem_cons_self (by rw [hid])
        | detached other => rw [keepsEvent_detached, ite_self]
      rw [hevent]
      exact ih fun e he => hqueue e (List.mem_cons_of_mem _ he)

def holdsId (held : List Device) (id : UInt64) : Bool :=
  held.any fun dev => dev.id = id

theorem holdsId_iff {held : List Device} {id : UInt64} :
    holdsId held id = true <-> Holds held id := by
  unfold holdsId Holds
  rw [List.any_eq_true]
  simp

theorem holdsId_cons_of_ne {device : Device} {held : List Device} {id : UInt64}
    (hne : device.id ≠ id) : holdsId (device :: held) id = holdsId held id := by
  unfold holdsId
  rw [List.any_cons, decide_eq_false hne, Bool.false_or]

theorem holdsId_filter (held : List Device) (id other : UInt64) :
    holdsId (held.filter fun dev => dev.id ≠ other) id =
      if other = id then false else holdsId held id := by
  unfold holdsId
  rw [List.any_filter]
  by_cases hid : other = id
  · subst other
    simp
  · rw [if_neg hid]
    congr 1
    funext dev
    by_cases hdev : dev.id = id
    · simp [hdev, Ne.symm hid]
    · simp [hdev]

theorem holdsId_heard (R : Registry) (held : List Device) (event : DeviceEvent)
    (id : UInt64) :
    holdsId (R.heard held event) id =
      keepsEvent (R.get id).isSome id (holdsId held id) event := by
  cases event with
  | attached other =>
      rw [keepsEvent_attached]
      unfold Registry.heard
      by_cases hid : other = id
      · subst other
        cases hget : R.get id with
        | none => simp [hget]
        | some device =>
            have hdevice : device.id = id := (Registry.get_eq_some hget).right
            simp [hget, holdsId, hdevice]
      · rw [if_neg hid]
        cases hget : R.get other with
        | none => simp only [hget]
        | some device =>
            have hdevice : device.id = other := (Registry.get_eq_some hget).right
            have hcons : holdsId (device :: held.filter fun dev =>
                dev.id ≠ other) id =
                  holdsId (held.filter fun dev => dev.id ≠ other) id := by
              simp [holdsId, hdevice, hid]
            simp only [hget, hcons, holdsId_filter, if_neg hid]
  | detached other => exact holdsId_filter held id other

theorem holds_settled_iff (R : Registry) (held : List Device)
    (queue : List DeviceEvent) (id : UInt64) :
    Holds (settled R held queue) id <->
      keeps (R.get id).isSome id (holdsId held id) queue = true := by
  rw [← holdsId_iff]
  induction queue generalizing held with
  | nil => exact Iff.rfl
  | cons event rest ih =>
      show holdsId (settled R (R.heard held event) rest) id = true <-> _
      rw [ih, keeps_cons, holdsId_heard]

end Exposure

/-!
## Listeners
-/

namespace Listener

open Exposure

def Left (l : Listener) (R : Registry) (id : UInt64) : Prop :=
  Holds (settled R l.held l.queue) id

def MayBeLeft (l : Listener) (id : UInt64) : Prop :=
  keeps true id (holdsId l.held id) l.queue = true

def push (l : Listener) (event : DeviceEvent) : Listener :=
  { l with queue := l.queue ++ [event] }

variable {l : Listener} {R : Registry} {id : UInt64}

theorem left_iff : l.Left R id <->
    keeps (R.get id).isSome id (holdsId l.held id) l.queue = true :=
  holds_settled_iff R l.held l.queue id

theorem Left.mayBeLeft (h : l.Left R id) : l.MayBeLeft id :=
  keeps_mono (fun _ => rfl) (fun hh => hh) (left_iff.mp h)

theorem Left.of_registry {S : Registry} (h : l.Left R id)
    (hregistered : (R.get id).isSome = true -> (S.get id).isSome = true) :
    l.Left S id :=
  left_iff.mpr (keeps_mono hregistered (fun hh => hh) (left_iff.mp h))

theorem left_push_attached {other : UInt64} :
    (l.push (.attached other)).Left R id <->
      l.Left R id ∨ other = id ∧ (R.get id).isSome = true := by
  rw [left_iff, left_iff]
  show keeps _ _ _ (l.queue ++ [_]) = true <-> _
  rw [keeps_concat, keepsEvent_attached]
  by_cases hid : other = id <;> simp [hid, push]

theorem left_push_detached {other : UInt64} :
    (l.push (.detached other)).Left R id <-> l.Left R id ∧ other ≠ id := by
  rw [left_iff, left_iff]
  show keeps _ _ _ (l.queue ++ [_]) = true <-> _
  rw [keeps_concat, keepsEvent_detached]
  by_cases hid : other = id <;> simp [hid, push]

theorem mayBeLeft_push_attached {other : UInt64} :
    (l.push (.attached other)).MayBeLeft id <->
      l.MayBeLeft id ∨ other = id := by
  unfold MayBeLeft
  show keeps _ _ _ (l.queue ++ [_]) = true <-> _
  rw [keeps_concat, keepsEvent_attached]
  by_cases hid : other = id <;> simp [hid, push]

theorem mayBeLeft_push_detached {other : UInt64} :
    (l.push (.detached other)).MayBeLeft id <->
      l.MayBeLeft id ∧ other ≠ id := by
  unfold MayBeLeft
  show keeps _ _ _ (l.queue ++ [_]) = true <-> _
  rw [keeps_concat, keepsEvent_detached]
  by_cases hid : other = id <;> simp [hid, push]

end Listener

/-!
## The invariant of a listener
-/

open Exposure

/--
The device is registered, and if it is a network device then no USB device takes
its UDID.
-/
def Registry.Clear (R : Registry) (takes : String -> Prop) (id : UInt64) :
    Prop :=
  exists d, d ∈ R ∧ d.id = id ∧ (d.isUsb = true ∨ ¬ takes d.udid)

theorem Registry.get_isSome_iff {R : Registry} {id : UInt64} :
    (R.get id).isSome = true <-> Holds R id := by
  unfold Registry.get Holds
  rw [List.find?_isSome]
  simp

theorem Registry.Clear.keep {R S : Registry} {takes takes' : String -> Prop}
    {id : UInt64} (h : R.Clear takes id)
    (hthere : forall d, d ∈ R -> d.id = id -> d ∈ S)
    (htakes : forall n, Device.network n ∈ R -> n.id = id ->
      takes' n.udid -> takes n.udid) : S.Clear takes' id := by
  rcases h with ⟨d, hd, hid, hshown⟩
  refine ⟨d, hthere d hd hid, hid, ?_⟩
  cases d with
  | usb u => exact Or.inl rfl
  | network n =>
      right
      intro htaken
      rcases hshown with husb | hfree
      · cases husb
      · exact hfree (htakes n hd hid htaken)

/--
The listener is left with devices that are clear or whose detachment is pending,
and could not be left with one that is being replaced.
-/
structure Watched (R : Registry) (takes : String -> Prop)
    (pending replaced : UInt64 -> Prop) (l : Listener) : Prop where
  left : forall id, l.Left R id -> pending id ∨ R.Clear takes id
  replaced : forall id, replaced id -> ¬ l.MayBeLeft id

namespace Watched

variable {R S : Registry} {takes takes' : String -> Prop}
variable {pending pending' replaced replaced' : UInt64 -> Prop}
variable {l : Listener}

theorem empty {phase : ListenerPhase} :
    Watched R takes pending replaced { phase := phase } := by
  have hnone : forall id, ¬ ({ phase := phase } : Listener).MayBeLeft id := by
    intro id hleft
    cases hleft
  constructor
  · intro id hleft
    exact absurd hleft.mayBeLeft (hnone id)
  · intro id _
    exact hnone id

theorem of_eq {m : Listener} (h : Watched R takes pending replaced l)
    (hheld : m.held = l.held) (hqueue : m.queue = l.queue) :
    Watched R takes pending replaced m := by
  constructor
  · intro id hleft
    apply h.left id
    unfold Listener.Left at hleft
    rw [hheld, hqueue] at hleft
    exact hleft
  · intro id hreplaced hleft
    apply h.replaced id hreplaced
    unfold Listener.MayBeLeft at hleft
    rw [hheld, hqueue] at hleft
    exact hleft

/--
The registry and the handlers change: what comes to be registered could not be
left over or is clear, and what was clear or pending is either of the two.
-/
theorem change (h : Watched R takes pending replaced l)
    (hregistered : forall id, l.MayBeLeft id -> (S.get id).isSome = true ->
      (R.get id).isSome = true ∨ S.Clear takes' id)
    (hpending : forall id, l.Left R id -> pending id ->
      pending' id ∨ S.Clear takes' id)
    (hclear : forall id, l.Left R id -> R.Clear takes id ->
      pending' id ∨ S.Clear takes' id)
    (hreplaced : forall id, replaced' id -> replaced id) :
    Watched S takes' pending' replaced' l := by
  constructor
  · intro id hleft
    have hold : l.Left R id -> pending' id ∨ S.Clear takes' id := by
      intro hleft
      rcases h.left id hleft with hp | hc
      · exact hpending id hleft hp
      · exact hclear id hleft hc
    by_cases hS : (S.get id).isSome = true
    · rcases hregistered id hleft.mayBeLeft hS with hR | hc
      · exact hold (hleft.of_registry fun _ => hR)
      · exact Or.inr hc
    · exact hold (hleft.of_registry fun hget => absurd hget hS)
  · intro id hid
    exact h.replaced id (hreplaced id hid)

theorem move (h : Watched R takes pending replaced l)
    (hpending : forall id, l.Left R id -> pending id -> pending' id)
    (hclear : forall id, l.Left R id -> R.Clear takes id ->
      pending' id ∨ R.Clear takes' id)
    (hreplaced : forall id, replaced' id -> replaced id) :
    Watched R takes' pending' replaced' l :=
  h.change (fun _ _ hget => Or.inl hget)
    (fun id hleft hp => Or.inl (hpending id hleft hp)) hclear hreplaced

/-- An attachment is sent of a device that is not replaced, clear if it is
registered or with a detachment pending. -/
theorem attach (h : Watched R takes pending replaced l) {id : UInt64}
    (hreplaced : ¬ replaced id)
    (hshown : (R.get id).isSome = true -> pending id ∨ R.Clear takes id) :
    Watched R takes pending replaced (l.push (.attached id)) := by
  constructor
  · intro other hleft
    rcases Listener.left_push_attached.mp hleft with hleft | ⟨rfl, hget⟩
    · exact h.left other hleft
    · exact hshown hget
  · intro other hother hleft
    rcases Listener.mayBeLeft_push_attached.mp hleft with hleft | rfl
    · exact h.replaced other hother hleft
    · exact hreplaced hother

/-- A detachment is sent, which is then not pending and may be of a replaced
device. -/
theorem detach (h : Watched R takes pending replaced l) {id : UInt64}
    (hpending : forall other, other ≠ id -> pending other -> pending' other)
    (hreplaced : forall other, replaced' other ->
      replaced other ∨ other = id) :
    Watched R takes pending' replaced' (l.push (.detached id)) := by
  constructor
  · intro other hleft
    rcases Listener.left_push_detached.mp hleft with ⟨hleft, hne⟩
    rcases h.left other hleft with hp | hc
    · exact Or.inl (hpending other (Ne.symm hne) hp)
    · exact Or.inr hc
  · intro other hother hleft
    rcases Listener.mayBeLeft_push_detached.mp hleft with ⟨hleft, hne⟩
    rcases hreplaced other hother with hother | hsame
    · exact h.replaced other hother hleft
    · exact hne hsame.symm

theorem hold (h : Watched R takes pending replaced l) {device : Device}
    (hget : R.get device.id = some device)
    (hshown : { l with held := device :: l.held }.Left R device.id ->
      ¬ replaced device.id ∧ (pending device.id ∨ R.Clear takes device.id)) :
    Watched R takes pending replaced { l with held := device :: l.held } := by
  have hregistered : (R.get device.id).isSome = true := by
    rw [hget]
    rfl
  constructor
  · intro id hleft
    by_cases hid : device.id = id
    · subst id
      exact (hshown hleft).right
    · apply h.left id
      rw [Listener.left_iff] at hleft ⊢
      rw [holdsId_cons_of_ne hid] at hleft
      exact hleft
  · intro id hreplaced hmay
    by_cases hid : device.id = id
    · subst id
      refine (hshown ?_).left hreplaced
      rw [Listener.left_iff, hregistered]
      exact hmay
    · apply h.replaced id hreplaced
      unfold Listener.MayBeLeft at hmay ⊢
      rw [holdsId_cons_of_ne hid] at hmay
      exact hmay

theorem receive {phase : ListenerPhase}
    {held : List Device} {event : DeviceEvent} {rest : List DeviceEvent}
    (h : Watched R takes pending replaced ⟨phase, held, event :: rest⟩) :
    Watched R takes pending replaced ⟨phase, R.heard held event, rest⟩ := by
  constructor
  · intro id hleft
    exact h.left id hleft
  · intro id hreplaced hmay
    apply h.replaced id hreplaced
    unfold Listener.MayBeLeft at hmay ⊢
    rw [holdsId_heard] at hmay
    rw [keeps_cons]
    refine keeps_mono (fun hr => hr) (fun hevent => ?_) hmay
    exact keepsEvent_mono (fun _ => rfl) (fun hh => hh) hevent

end Watched

end Watcher
end Rusbmux
