import Rusbmux.Device.NetworkTasks

/-!
# Renewing the power assertion

The task that `PowerAssertion::new` leaves behind, next to the heartbeat task.
Every ten minutes it makes a new assertion, the way the first one was made, and
drops the one before; it ends at the first that it cannot make.  Both tasks are
aborted with the device, so a run may stop after any reply to one of them.
-/

namespace Rusbmux
namespace Device

open Foundation

inductive Renewal (Ip : Type) where
  | sleeping (addr : Ip)
  | readingFile (addr : Ip)
  | connecting (addr : Ip)
  | creating (addr : Ip)
  | ended (err : RusbmuxError)

namespace Renewal

variable {Ip : Type}

def renewalInterval : Nat := 10 * 60

def call (o : NetworkOpen Ip) : Renewal Ip -> Option (NetworkCall Ip)
  | sleeping _ => some (.sleep renewalInterval)
  | readingFile _ => some (.readPairingFile o.pairingPath)
  | connecting addr => some (.connectAssertion (o.assertionProvider addr))
  | creating _ => some (.createAssertion NetworkTask.assertionTimeout)
  | ended _ => none

def resume : Renewal Ip -> NetworkReply -> Option (Renewal Ip)
  | sleeping addr, .done => some (readingFile addr)
  | readingFile addr, .done => some (connecting addr)
  | readingFile _, .failed err => some (ended err)
  | connecting addr, .done => some (creating addr)
  | connecting _, .idevice err => some (ended (.idevice err))
  -- the assertion held so far is dropped when the new one is there
  | creating addr, .done => some (sleeping addr)
  | creating _, .errorKey error => some (ended (.powerAssertion error))
  | creating _, .failed err => some (ended err)
  | _, _ => none

def task (o : NetworkOpen Ip) :
    Dialogue (Renewal Ip) (NetworkCall Ip) NetworkReply where
  call := call o
  resume := resume

abbrev Log (Ip : Type) : Type := Dialogue.Log (NetworkCall Ip) NetworkReply

def After (log : Log Ip) (c : NetworkCall Ip) : Prop :=
  exists before, log = before ++ [(c, .done)]

theorem after_concat (log : Log Ip) (c : NetworkCall Ip) :
    After (log ++ [(c, .done)]) c :=
  ⟨log, rfl⟩

def Fresh (log : Log Ip) : Prop :=
  log = [] ∨ After log (.createAssertion NetworkTask.assertionTimeout)

/-- What a call of the task has behind it. -/
def Allowed (o : NetworkOpen Ip) (addr : Ip) (log : Log Ip) :
    NetworkCall Ip -> Prop
  | .sleep seconds => seconds = renewalInterval ∧ Fresh log
  | .readPairingFile path =>
      path = o.pairingPath ∧ After log (.sleep renewalInterval)
  | .connectAssertion provider =>
      provider = o.assertionProvider addr ∧
        After log (.readPairingFile o.pairingPath)
  | .createAssertion timeout =>
      timeout = NetworkTask.assertionTimeout ∧
        After log (.connectAssertion (o.assertionProvider addr))
  | .connectHeartbeat _ | .getMarco _ | .sendPolo => False

def Told (o : NetworkOpen Ip) (addr : Ip) (log : Log Ip) : Renewal Ip -> Prop
  | sleeping a => a = addr ∧ Fresh log
  | readingFile a => a = addr ∧ After log (.sleep renewalInterval)
  | connecting a => a = addr ∧ After log (.readPairingFile o.pairingPath)
  | creating a =>
      a = addr ∧ After log (.connectAssertion (o.assertionProvider addr))
  | ended _ => True

variable {o : NetworkOpen Ip} {addr : Ip}

theorem told_keeps (o : NetworkOpen Ip) (addr : Ip) :
    (task o).Keeps (Told o addr) := by
  intro log p c r q htold hcall hresume
  cases p with
  | ended err => cases hcall
  | sleeping a =>
      cases hcall
      cases r <;> cases hresume
      exact ⟨htold.left, after_concat log _⟩
  | readingFile a =>
      cases hcall
      cases r <;> cases hresume
      · exact ⟨htold.left, after_concat log _⟩
      · exact trivial
  | connecting a =>
      cases hcall
      rcases htold with ⟨rfl, _⟩
      cases r <;> cases hresume
      · exact ⟨rfl, after_concat log _⟩
      · exact trivial
  | creating a =>
      cases hcall
      cases r <;> cases hresume
      · exact ⟨htold.left, Or.inr (after_concat log _)⟩
      · exact trivial
      · exact trivial

theorem allowed_of_told {log : Log Ip} {p : Renewal Ip} {c : NetworkCall Ip}
    (htold : Told o addr log p) (hcall : call o p = some c) :
    Allowed o addr log c := by
  cases p with
  | ended err => cases hcall
  | sleeping a =>
      cases hcall
      exact ⟨rfl, htold.right⟩
  | readingFile a =>
      cases hcall
      exact ⟨rfl, htold.right⟩
  | connecting a =>
      cases hcall
      rcases htold with ⟨rfl, hread⟩
      exact ⟨rfl, hread⟩
  | creating a =>
      cases hcall
      exact ⟨rfl, htold.right⟩

end Renewal

/-!
## The two tasks of a device
-/

structure DeviceTasks (Ip : Type) where
  /-- `NetworkDevice::new`, and the heartbeat task after it. -/
  main : Dialogue.Conversation (NetworkTask Ip) (NetworkCall Ip) NetworkReply
  renewal : Option
    (Dialogue.Conversation (Renewal Ip) (NetworkCall Ip) NetworkReply)

inductive DeviceReply where
  | main (reply : NetworkReply)
  | renewal (reply : NetworkReply)

namespace DeviceTasks

variable {Ip : Type}

def start : DeviceTasks Ip where
  main := { place := .readingFile }
  renewal := none

def spawned : NetworkTask Ip -> NetworkReply -> Option (Renewal Ip)
  | .creatingAssertion addr, .done => some (.sleeping addr)
  | _, _ => none

def step (checks : Bool) (o : NetworkOpen Ip) :
    Machine (DeviceTasks Ip) DeviceReply := fun s reply =>
  match reply with
  | .main r =>
      ((NetworkTask.task checks o).step s.main r).map fun main =>
        { main := main
          renewal := s.renewal.or
            ((spawned s.main.place r).map fun p => { place := p }) }
  | .renewal r =>
      s.renewal.bind fun t =>
        ((Renewal.task o).step t r).map fun u => { s with renewal := some u }

structure Asserted (o : NetworkOpen Ip) (log : NetworkTask.Log Ip) (addr : Ip) :
    Prop where
  reached : NetworkTask.Reached o log addr
  connected : (.connectAssertion (o.assertionProvider addr), .done) ∈ log
  held : NetworkTask.AssertionHeld log

/-- Every call of a device has behind it what the code relies on. -/
structure Allowed (o : NetworkOpen Ip) (s : DeviceTasks Ip) : Prop where
  main : Dialogue.Justified (NetworkTask.Allowed o) s.main.log
  renewal : forall t, s.renewal = some t ->
    exists addr, Asserted o s.main.log addr ∧
      Dialogue.Justified (Renewal.Allowed o addr) t.log

structure Told (o : NetworkOpen Ip) (s : DeviceTasks Ip) : Prop where
  main : NetworkTask.Told o s.main.log s.main.place ∧
    NetworkTask.Quiet s.main.log s.main.place
  renewal : forall t, s.renewal = some t ->
    exists addr, Asserted o s.main.log addr ∧
      Renewal.Told o addr t.log t.place ∧
      Dialogue.Justified (Renewal.Allowed o addr) t.log

variable {checks : Bool} {o : NetworkOpen Ip} {s t : DeviceTasks Ip}

theorem Asserted.append {log : NetworkTask.Log Ip} {addr : Ip}
    (h : Asserted o log addr) (more : NetworkTask.Log Ip) :
    Asserted o (log ++ more) addr where
  reached := List.mem_append_left more h.reached
  connected := List.mem_append_left more h.connected
  held := List.mem_append_left more h.held

theorem asserted_of_spawned {log : NetworkTask.Log Ip} {p : NetworkTask Ip}
    {c : NetworkCall Ip} {r : NetworkReply} {q : Renewal Ip}
    (htold : NetworkTask.Told o log p) (hcall : NetworkTask.call o p = some c)
    (hspawned : spawned p r = some q) :
    exists addr, Asserted o (log ++ [(c, r)]) addr ∧ q = .sleeping addr := by
  cases p with
  | creatingAssertion addr =>
      cases hcall
      cases r <;> cases hspawned
      refine ⟨addr, ⟨?_, ?_, ?_⟩, rfl⟩
      · exact List.mem_append_left _ htold.left
      · exact List.mem_append_left _ htold.right
      · exact List.mem_append_right _ (List.mem_singleton_self _)
  | _ => cases hspawned

theorem told_main (h : Told o s) {r : NetworkReply}
    (hstep : step checks o s (.main r) = some t) : Told o t := by
  rcases Option.map_eq_some_iff.mp hstep with ⟨main, hmain, rfl⟩
  rcases Dialogue.step_eq_some hmain with ⟨c, p, hcall, hresume, rfl⟩
  refine ⟨NetworkTask.told_keeps checks o _ _ _ _ _ h.main hcall hresume, ?_⟩
  intro u hu
  cases hrenewal : s.renewal with
  | some v =>
      rw [hrenewal] at hu
      cases hu
      rcases h.renewal u hrenewal with ⟨addr, hasserted, hrest⟩
      exact ⟨addr, hasserted.append _, hrest⟩
  | none =>
      rw [hrenewal] at hu
      rcases Option.map_eq_some_iff.mp hu with ⟨q, hspawned, rfl⟩
      rcases asserted_of_spawned h.main.left hcall hspawned with
        ⟨addr, hasserted, rfl⟩
      exact ⟨addr, hasserted, ⟨rfl, Or.inl rfl⟩, Dialogue.justified_nil _⟩

theorem told_renewal (h : Told o s) {r : NetworkReply}
    (hstep : step checks o s (.renewal r) = some t) : Told o t := by
  rcases Option.bind_eq_some_iff.mp hstep with ⟨u, hu, hnext⟩
  rcases Option.map_eq_some_iff.mp hnext with ⟨v, hv, rfl⟩
  rcases Dialogue.step_eq_some hv with ⟨c, p, hcall, hresume, rfl⟩
  refine ⟨h.main, ?_⟩
  intro w hw
  cases hw
  rcases h.renewal u hu with ⟨addr, hasserted, htold, hjustified⟩
  exact ⟨addr, hasserted,
    Renewal.told_keeps o addr _ _ _ _ _ htold hcall hresume,
    hjustified.append (Renewal.allowed_of_told htold hcall) r⟩

theorem told_step {reply : DeviceReply} (h : Told o s)
    (hstep : step checks o s reply = some t) : Told o t := by
  cases reply with
  | main r => exact told_main h hstep
  | renewal r => exact told_renewal h hstep

theorem told_start (o : NetworkOpen Ip) : Told o start where
  main := ⟨trivial, fun _ => List.forall_mem_nil _⟩
  renewal := nofun

theorem run_main {replies : List DeviceReply}
    (hrun : Machine.run (step checks o) start replies = some s) :
    exists own, Machine.run (NetworkTask.task checks o).step
      { place := .readingFile } own = some s.main := by
  have hsimulates : Machine.Simulates (step checks o)
      (NetworkTask.task checks o).step main fun
        | _, .main r => some r
        | _, .renewal _ => none := by
    intro u reply v hstep
    cases reply with
    | main r =>
        rcases Option.map_eq_some_iff.mp hstep with ⟨main, hmain, rfl⟩
        exact hmain
    | renewal r =>
        rcases Option.bind_eq_some_iff.mp hstep with ⟨w, _, hnext⟩
        rcases Option.map_eq_some_iff.mp hnext with ⟨x, _, rfl⟩
        rfl
  exact ⟨_, Machine.run_labels hsimulates hrun⟩

/--
Whatever the device and the file system answer, and however the replies to the
two tasks are mixed: the heartbeats and the renewals go on from an assertion at
the address that was reached, and each renewal waits, reads the pairing file and
connects again.
-/
theorem deviceCalls_allowed {replies : List DeviceReply}
    (hrun : Machine.run (step checks o) start replies = some s) :
    Allowed o s where
  main := by
    rcases run_main hrun with ⟨own, hown⟩
    exact NetworkTask.taskCalls_allowed checks o hown
  renewal := by
    intro t ht
    have htold : Told o s :=
      Machine.run_invariant (fun _ _ _ => told_step) (told_start o) hrun
    rcases htold.renewal t ht with ⟨addr, hasserted, _, hjustified⟩
    exact ⟨addr, hasserted, hjustified⟩

def refusedRenewal : List DeviceReply :=
  [.main .done, .main (.idevice "connection refused"), .main .done,
    .main .done, .main .done, .main .done, .main (.marco 10), .renewal .done,
    .renewal .done, .main .done, .renewal .done, .renewal .done,
    .main (.marco 10), .renewal .done, .renewal .done, .renewal .done,
    .renewal (.errorKey "Busy"), .main .done]

def refusedRenewalEnd : DeviceTasks String :=
  (Machine.run (step true NetworkTask.secondAddress) start
    refusedRenewal).getD start

theorem run_refusedRenewal :
    Machine.run (step true NetworkTask.secondAddress) start refusedRenewal =
      some refusedRenewalEnd := rfl

theorem deviceCalls_allowed_refusedRenewal :
    Allowed NetworkTask.secondAddress refusedRenewalEnd :=
  deviceCalls_allowed run_refusedRenewal

end DeviceTasks

end Device
end Rusbmux
