import Rusbmux.Foundation.ShardLocks
import Rusbmux.Watcher.Registry

/-!
# The locks of the registry

The registry is a sharded table.  `insert` and `remove` write the shard of their
id, `retain` writes every shard in turn, and a write waits while somebody has a
guard of the shard.  The clients read with guards: `connect` keeps the guard of
the device until the device has answered, `handle_listen` keeps that of the
device it announces until the client has taken the packet, and the iterator of
`send_currently_connected` keeps the shard it is in.  The list of devices is
collected before it is written, with no guard left.
-/

namespace Rusbmux
namespace Watcher

open Foundation

inductive RegistryCall where
  | insert (device : Device)
  | remove (id : UInt64)
  | retain (udid : String)
deriving DecidableEq, Repr

inductive ClientTask where
  /-- `connect` waits for the device. -/
  | connecting (id : UInt64)
  /-- `handle_listen` answers before it shows what is connected. -/
  | accepting
  /--
  `send_currently_connected` is in a shard, with the devices and the shards that
  are left, and the client may have to take a packet first.
  -/
  | showing (shard : Option Nat) (rest : List Device) (later : List Nat)
      (waits : Bool)
  | listening
  /-- `handle_listen` writes that the device is attached. -/
  | announcing (id : UInt64)
  | answering (listens : Bool)
  | ended
deriving DecidableEq, Repr

structure LockedRegistry where
  registry : Registry := []
  clients : List ClientTask := []
  /-- The write of a task, with the shards that are left. -/
  calls : Nat -> Option (RegistryCall × List Nat) := fun _ => none

namespace RegistryCall

def shards (map : ShardMap UInt64) : RegistryCall -> List Nat
  | insert device => [map.shardOf device.id]
  | remove id => [map.shardOf id]
  | retain _ => map.all

def applyIn (map : ShardMap UInt64) (shard : Nat) (R : Registry) :
    RegistryCall -> Registry
  | insert device => R.insert device
  | remove id => R.remove id
  | retain udid => R.filter fun dev =>
      map.shardOf dev.id ≠ shard || dev.isNetwork || dev.udid ≠ udid

def apply (R : Registry) : RegistryCall -> Registry
  | insert device => R.insert device
  | remove id => R.remove id
  | retain udid => R.filter fun dev => dev.isNetwork || dev.udid ≠ udid

end RegistryCall

namespace ClientTask

def holds (map : ShardMap UInt64) : ClientTask -> Option Nat
  | connecting id => some (map.shardOf id)
  | showing shard _ _ _ => shard
  | announcing id => some (map.shardOf id)
  | _ => none

/-- The shard of which the task has a guard while it waits. -/
def waitsWith (map : ShardMap UInt64) : ClientTask -> Option Nat
  | showing _ _ _ false => none
  | task => task.holds map

def woken (map : ShardMap UInt64) : ClientTask -> Option ClientTask
  | connecting _ => some ended
  | accepting => some (showing none [] map.all false)
  | showing shard rest later true => some (showing shard rest later false)
  | announcing _ => some listening
  | answering true => some listening
  | answering false => some ended
  | _ => none

end ClientTask

namespace Registry

def connecting (R : Registry) (id : UInt64) (waits : Bool) : ClientTask :=
  if (R.get id).isSome && waits then .connecting id else .ended

def showing (map : ShardMap UInt64) (R : Registry) (shard : Option Nat)
    (waits : Bool) : List Device -> List Nat -> ClientTask
  | device :: rest, later =>
      .showing shard rest later (waits && !R.isShadowed device)
  | [], next :: later =>
      .showing (some next) (R.filter fun dev => map.shardOf dev.id = next)
        later false
  | [], [] => .listening

/-- A listener hears an event, and may have to wait for its client. -/
def announcing (R : Registry) (waits : Bool) : DeviceEvent -> ClientTask
  | .attached id =>
      if (R.get id).isSome && waits then .announcing id else .listening
  | .detached _ => if waits then .answering true else .listening

end Registry

namespace LockedRegistry

inductive Action where
  | begin (task : Nat) (call : RegistryCall)
  | advance (task : Nat)
  | connect (id : UInt64) (waits : Bool)
  | deviceList (waits : Bool)
  | listen (waits : Bool)
  | showNext (client : Nat) (waits : Bool)
  | hear (client : Nat) (event : DeviceEvent) (waits : Bool)
  | wake (client : Nat)
  | fail (client : Nat)

def isHeld (map : ShardMap UInt64) (s : LockedRegistry) (shard : Nat) : Bool :=
  s.clients.any fun task => task.holds map = some shard

def start (s : LockedRegistry) (task : ClientTask) : LockedRegistry :=
  { s with clients := s.clients ++ [task] }

def setClient (s : LockedRegistry) (client : Nat) (task : ClientTask) :
    LockedRegistry :=
  { s with clients := s.clients.set client task }

def setCall (s : LockedRegistry) (task : Nat)
    (call : Option (RegistryCall × List Nat)) : LockedRegistry :=
  { s with calls := Function.update s.calls task call }

def advance (map : ShardMap UInt64) (s : LockedRegistry) (task : Nat) :
    Option LockedRegistry :=
  match s.calls task with
  | none => none
  | some (_, []) => some (s.setCall task none)
  | some (call, shard :: rest) =>
      if s.isHeld map shard then none
      else some (setCall { s with registry := call.applyIn map shard s.registry }
        task (some (call, rest)))

def step (map : ShardMap UInt64) : Machine LockedRegistry Action := fun s a =>
  match a with
  | .begin task call =>
      match s.calls task with
      | none => some (s.setCall task (some (call, call.shards map)))
      | some _ => none
  | .advance task => s.advance map task
  | .connect id waits => some (s.start (s.registry.connecting id waits))
  | .deviceList waits =>
      some (s.start (if waits then .answering false else .ended))
  | .listen waits =>
      some (s.start
        (if waits then .accepting else .showing none [] map.all false))
  | .showNext client waits =>
      match s.clients[client]? with
      | some (.showing shard rest later false) =>
          some (s.setClient client
            (s.registry.showing map shard waits rest later))
      | _ => none
  | .hear client event waits =>
      match s.clients[client]? with
      | some .listening =>
          some (s.setClient client (s.registry.announcing waits event))
      | _ => none
  | .wake client =>
      (s.clients[client]?.bind (ClientTask.woken map)).map (s.setClient client)
  | .fail client =>
      s.clients[client]?.map fun _ => s.setClient client .ended

def waits (map : ShardMap UInt64) : LockView LockedRegistry Nat where
  held s shard := exists task, task ∈ s.clients ∧
    task.waitsWith map = some shard
  agenda s task := (s.calls task).elim [] Prod.snd

/-- No write waits for a shard of which a waiting client has a guard. -/
def NeverBlocked (map : ShardMap UInt64) (s : LockedRegistry) : Prop :=
  (waits map).Unblocked s

/--
A write begins while no client waits with a guard of one of its shards, and a
client begins to wait about a registered device while no write begun before has
still to write its shard.
-/
def Separate (map : ShardMap UInt64) (s : LockedRegistry) : Action -> Prop
  | .begin _ call => forall shard, shard ∈ call.shards map ->
      ¬ (LockedRegistry.waits map).held s shard
  | .connect id waits | .hear _ (.attached id) waits =>
      waits = true -> (s.registry.get id).isSome = true ->
        ¬ (LockedRegistry.waits map).Pending s (map.shardOf id)
  | .showNext client waits => forall shard device rest later,
      s.clients[client]? =
          some (.showing (some shard) (device :: rest) later false) ->
        waits = true -> s.registry.isShadowed device = false ->
          ¬ (LockedRegistry.waits map).Pending s shard
  | _ => True

/-- What the daemon does by itself: writes go on, and the iterators that run. -/
def GoesOn : Action -> Prop
  | .advance _ => True
  | .showNext _ waits => waits = false
  | _ => False

/-!
## Guards that are taken and given back
-/

variable {map : ShardMap UInt64} {s t : LockedRegistry}

theorem agenda_of_call {task : Nat} {call : RegistryCall} {shards : List Nat}
    (hcall : s.calls task = some (call, shards)) :
    (waits map).agenda s task = shards := by
  show (s.calls task).elim [] Prod.snd = shards
  rw [hcall]
  rfl

theorem agenda_setCall_of_ne {task other : Nat}
    {call : Option (RegistryCall × List Nat)} (hne : other ≠ task) :
    (waits map).agenda (s.setCall task call) other =
      (waits map).agenda s other := by
  show (Function.update s.calls task call other).elim [] _ =
    (s.calls other).elim [] _
  rw [Function.update_of_ne hne]

theorem agenda_setCall {task : Nat} {call : RegistryCall} {shards : List Nat} :
    (waits map).agenda (s.setCall task (some (call, shards))) task = shards :=
  agenda_of_call (Function.update_self task _ s.calls)

theorem held_start {task : ClientTask} (shard : Nat) :
    (waits map).held (s.start task) shard <->
      (waits map).held s shard ∨ task.waitsWith map = some shard := by
  show (exists other, other ∈ s.clients ++ [task] ∧ _) <->
    (exists other, other ∈ s.clients ∧ _) ∨ _
  simp only [List.mem_append, List.mem_singleton, or_and_right, exists_or,
    exists_eq_left]

theorem held_setClient {client : Nat} {before task : ClientTask}
    (hbefore : s.clients[client]? = some before)
    (hfree : before.waitsWith map = none) (shard : Nat) :
    (waits map).held (s.setClient client task) shard <->
      (waits map).held s shard ∨ task.waitsWith map = some shard := by
  rcases List.getElem?_eq_some_iff.mp hbefore with ⟨hlt, hget⟩
  constructor
  · intro hheld
    rcases hheld with ⟨other, hmem, hwaits⟩
    rcases List.mem_or_eq_of_mem_set hmem with hold | rfl
    · exact Or.inl ⟨other, hold, hwaits⟩
    · exact Or.inr hwaits
  · intro hheld
    rcases hheld with ⟨other, hmem, hwaits⟩ | hwaits
    · rcases List.mem_iff_getElem?.mp hmem with ⟨index, hindex⟩
      have hne : client ≠ index := by
        intro hsame
        subst hsame
        rw [hbefore] at hindex
        cases hindex
        rw [hfree] at hwaits
        cases hwaits
      have hkept : (s.clients.set client task)[index]? = some other := by
        rw [List.getElem?_set_ne hne]
        exact hindex
      exact ⟨other, List.mem_of_getElem? hkept, hwaits⟩
    · exact ⟨task, List.mem_set hlt task, hwaits⟩

theorem held_of_setClient {client : Nat} {task : ClientTask}
    (hfree : task.waitsWith map = none) {shard : Nat}
    (hheld : (waits map).held (s.setClient client task) shard) :
    (waits map).held s shard := by
  rcases hheld with ⟨other, hmem, hwaits⟩
  rcases List.mem_or_eq_of_mem_set hmem with hold | rfl
  · exact ⟨other, hold, hwaits⟩
  · rw [hfree] at hwaits
    cases hwaits

/-!
## What a step does
-/

theorem begin_eq_some {task : Nat} {call : RegistryCall}
    (hstep : step map s (.begin task call) = some t) :
    s.calls task = none ∧
      t = s.setCall task (some (call, call.shards map)) := by
  unfold step at hstep
  simp only at hstep
  split at hstep
  · rename_i hnone
    exact ⟨hnone, (Option.some.inj hstep).symm⟩
  · cases hstep

theorem advance_eq_some {task : Nat} (hstep : s.advance map task = some t) :
    (exists call, s.calls task = some (call, []) ∧ t = s.setCall task none) ∨
      exists call shard rest, s.calls task = some (call, shard :: rest) ∧
        ¬ s.isHeld map shard = true ∧
        t = setCall { s with registry := call.applyIn map shard s.registry }
          task (some (call, rest)) := by
  unfold advance at hstep
  split at hstep
  · cases hstep
  · rename_i call hcall
    exact Or.inl ⟨call, hcall, (Option.some.inj hstep).symm⟩
  · rename_i call shard rest hcall
    rcases Machine.of_disabled_if hstep with ⟨hfree, hnext⟩
    exact Or.inr ⟨call, shard, rest, hcall, hfree,
      (Option.some.inj hnext).symm⟩

theorem showNext_eq_some {client : Nat} {waits : Bool}
    (hstep : step map s (.showNext client waits) = some t) :
    exists shard rest later,
      s.clients[client]? = some (.showing shard rest later false) ∧
        t = s.setClient client
          (s.registry.showing map shard waits rest later) := by
  unfold step at hstep
  simp only at hstep
  split at hstep
  · rename_i shard rest later hclient
    exact ⟨shard, rest, later, hclient, (Option.some.inj hstep).symm⟩
  · cases hstep

theorem hear_eq_some {client : Nat} {event : DeviceEvent} {waits : Bool}
    (hstep : step map s (.hear client event waits) = some t) :
    s.clients[client]? = some .listening ∧
      t = s.setClient client (s.registry.announcing waits event) := by
  unfold step at hstep
  simp only at hstep
  split at hstep
  · rename_i hclient
    exact ⟨hclient, (Option.some.inj hstep).symm⟩
  · cases hstep

/-!
## Waits and writes that are apart
-/

theorem waitsWith_connecting (R : Registry) (id : UInt64) (waits : Bool)
    (shard : Nat) :
    (R.connecting id waits).waitsWith map = some shard <->
      waits = true ∧ (R.get id).isSome = true ∧ map.shardOf id = shard := by
  cases hget : (R.get id).isSome <;> cases waits <;>
    simp [Registry.connecting, ClientTask.waitsWith, ClientTask.holds, hget]

theorem waitsWith_attached (R : Registry) (id : UInt64) (waits : Bool)
    (shard : Nat) :
    (R.announcing waits (.attached id)).waitsWith map = some shard <->
      waits = true ∧ (R.get id).isSome = true ∧ map.shardOf id = shard := by
  cases hget : (R.get id).isSome <;> cases waits <;>
    simp [Registry.announcing, ClientTask.waitsWith, ClientTask.holds, hget]

theorem waitsWith_detached (R : Registry) (id : UInt64) (waits : Bool) :
    (R.announcing waits (.detached id)).waitsWith map = none := by
  cases waits <;> rfl

theorem waitsWith_showing (R : Registry) (inside : Option Nat) (waits : Bool)
    (devices : List Device) (later : List Nat) (shard : Nat) :
    (R.showing map inside waits devices later).waitsWith map = some shard <->
      exists device rest, devices = device :: rest ∧ waits = true ∧
        R.isShadowed device = false ∧ inside = some shard := by
  cases devices with
  | nil => cases later <;> simp [Registry.showing, ClientTask.waitsWith,
      ClientTask.holds]
  | cons device rest =>
      cases waits <;> cases hshadow : R.isShadowed device <;>
        simp [Registry.showing, ClientTask.waitsWith, ClientTask.holds, hshadow]

theorem waitsWith_woken {task next : ClientTask}
    (hwoken : task.woken map = some next) : next.waitsWith map = none := by
  cases task with
  | connecting waits | announcing waits => cases hwoken; rfl
  | accepting => cases hwoken; rfl
  | showing shard rest later waits => cases waits <;> cases hwoken; rfl
  | answering ok => cases ok <;> cases hwoken <;> rfl
  | listening | ended => cases hwoken

theorem clear_start_iff (task : ClientTask) :
    (waits map).Clear (s.start task) <-> (waits map).Clear s ∧
      forall shard, task.waitsWith map = some shard ->
        ¬ (waits map).Pending s shard :=
  LockView.clear_iff_of_taken (fun _ => rfl) held_start

theorem clear_setClient_iff {client : Nat} {before : ClientTask}
    (hbefore : s.clients[client]? = some before)
    (hfree : before.waitsWith map = none) (task : ClientTask) :
    (waits map).Clear (s.setClient client task) <-> (waits map).Clear s ∧
      forall shard, task.waitsWith map = some shard ->
        ¬ (waits map).Pending s shard :=
  LockView.clear_iff_of_taken (fun _ => rfl) (held_setClient hbefore hfree)

theorem clear_advance {task : Nat} (h : (waits map).Clear s)
    (hstep : s.advance map task = some t) : (waits map).Clear t := by
  rcases advance_eq_some hstep with
    ⟨call, hcall, rfl⟩ | ⟨call, shard, rest, hcall, _, rfl⟩
  · refine h.of_fewer ?_ (fun _ hheld => hheld)
    intro writer other hmem
    by_cases hsame : writer = task
    · subst hsame
      change other ∈ (Function.update s.calls writer none writer).elim [] _
        at hmem
      rw [Function.update_self] at hmem
      cases hmem
    · rw [agenda_setCall_of_ne hsame] at hmem
      exact hmem
  · refine h.of_fewer ?_ (fun _ hheld => hheld)
    intro writer other hmem
    by_cases hsame : writer = task
    · subst hsame
      rw [agenda_setCall] at hmem
      rw [agenda_of_call hcall]
      exact List.mem_cons_of_mem shard hmem
    · rw [agenda_setCall_of_ne hsame] at hmem
      exact hmem

theorem clear_step_iff {a : Action} (hstep : step map s a = some t) :
    ((waits map).Clear t -> s.Separate map a) ∧
      ((waits map).Clear s -> s.Separate map a -> (waits map).Clear t) := by
  have hquiet : forall {task : ClientTask}, task.waitsWith map = none ->
      (waits map).Clear s -> (waits map).Clear (s.start task) := by
    intro task hfree h
    rw [clear_start_iff, hfree]
    exact ⟨h, nofun⟩
  cases a with
  | begin task call =>
      rcases begin_eq_some hstep with ⟨hnone, rfl⟩
      have hidle : (waits map).agenda s task = [] := by
        show (s.calls task).elim [] Prod.snd = []
        rw [hnone]
        rfl
      rw [LockView.clear_iff_of_begun hidle
        (fun _ hne => agenda_setCall_of_ne hne) (fun _ => Iff.rfl),
        agenda_setCall]
      exact ⟨fun h => h.right, fun h hseparate => ⟨h, hseparate⟩⟩
  | advance task =>
      exact ⟨fun _ => trivial, fun h _ => clear_advance h hstep⟩
  | connect id waiting =>
      cases hstep
      rw [clear_start_iff]
      simp only [waitsWith_connecting]
      constructor
      · intro h hwaits hsome
        exact h.right _ ⟨hwaits, hsome, rfl⟩
      · intro h hseparate
        refine ⟨h, ?_⟩
        rintro shard ⟨hwaits, hsome, rfl⟩
        exact hseparate hwaits hsome
  | deviceList waiting =>
      cases hstep
      refine ⟨fun _ => trivial, fun h _ => hquiet ?_ h⟩
      cases waiting <;> rfl
  | listen waiting =>
      cases hstep
      refine ⟨fun _ => trivial, fun h _ => hquiet ?_ h⟩
      cases waiting <;> rfl
  | showNext client waiting =>
      rcases showNext_eq_some hstep with ⟨shard, rest, later, hclient, rfl⟩
      rw [clear_setClient_iff hclient rfl]
      simp only [waitsWith_showing]
      constructor
      · intro h other device devices shards hother hwaits hshown
        rw [hclient] at hother
        cases hother
        exact h.right other ⟨device, devices, rfl, hwaits, hshown, rfl⟩
      · intro h hseparate
        refine ⟨h, ?_⟩
        rintro other ⟨device, devices, rfl, hwaits, hshown, rfl⟩
        exact hseparate other device devices later hclient hwaits hshown
  | hear client event waiting =>
      rcases hear_eq_some hstep with ⟨hclient, rfl⟩
      rw [clear_setClient_iff hclient rfl]
      cases event with
      | attached id =>
          simp only [waitsWith_attached]
          constructor
          · intro h hwaits hsome
            exact h.right _ ⟨hwaits, hsome, rfl⟩
          · intro h hseparate
            refine ⟨h, ?_⟩
            rintro shard ⟨hwaits, hsome, rfl⟩
            exact hseparate hwaits hsome
      | detached id =>
          rw [waitsWith_detached]
          exact ⟨fun _ => trivial, fun h _ => ⟨h, nofun⟩⟩
  | wake client =>
      rcases Option.map_eq_some_iff.mp hstep with ⟨task, hwoken, rfl⟩
      rcases Option.bind_eq_some_iff.mp hwoken with ⟨before, _, hnext⟩
      have hfree := waitsWith_woken hnext
      exact ⟨fun _ => trivial, fun h _ => h.of_fewer (fun _ _ hmem => hmem)
        fun _ hheld => held_of_setClient hfree hheld⟩
  | fail client =>
      rcases Option.map_eq_some_iff.mp hstep with ⟨before, _, rfl⟩
      exact ⟨fun _ => trivial, fun h _ => h.of_fewer (fun _ _ hmem => hmem)
        fun _ hheld => held_of_setClient rfl hheld⟩

/-!
## A write that comes to the guard of a waiting client
-/

theorem setClient_setClient (client : Nat) (task next : ClientTask) :
    (s.setClient client task).setClient client next =
      s.setClient client next := by
  unfold setClient
  rw [List.set_set]

theorem run_showNext (map : ShardMap UInt64) {client : Nat}
    (hlt : client < s.clients.length)
    (shard : Option Nat) (rest : List Device) (later : List Nat) :
    exists rounds, Machine.run (step map)
        (s.setClient client (.showing shard rest later false))
        (List.replicate rounds (.showNext client false)) =
      some (s.setClient client .listening) := by
  have hround : forall shard rest later, step map
      (s.setClient client (.showing shard rest later false))
        (.showNext client false) =
      some (s.setClient client
        (s.registry.showing map shard false rest later)) := by
    intro shard rest later
    have hclient : (s.setClient client
        (.showing shard rest later false)).clients[client]? =
          some (.showing shard rest later false) :=
      List.getElem?_set_self hlt
    unfold step
    simp only [hclient, setClient_setClient]
    rfl
  have hgo : forall {task next : ClientTask} {rounds : Nat},
      step map (s.setClient client task) (.showNext client false) =
        some (s.setClient client next) ->
      Machine.run (step map) (s.setClient client next)
        (List.replicate rounds (.showNext client false)) =
          some (s.setClient client .listening) ->
      Machine.run (step map) (s.setClient client task)
        (List.replicate (rounds + 1) (.showNext client false)) =
          some (s.setClient client .listening) := by
    intro task next rounds hstep hrun
    rw [List.replicate_succ, Machine.run_cons_of_step hstep]
    exact hrun
  -- Every device of a shard takes a round, and every shard one more.
  induction later generalizing shard rest with
  | nil =>
      induction rest with
      | nil => exact ⟨1, hgo (hround shard [] []) rfl⟩
      | cons device rest ihRest =>
          rcases ihRest with ⟨rounds, hrun⟩
          exact ⟨rounds + 1, hgo (hround shard (device :: rest) []) hrun⟩
  | cons next later ih =>
      induction rest with
      | nil =>
          rcases ih (some next)
            (s.registry.filter fun dev => map.shardOf dev.id = next) with
            ⟨rounds, hrun⟩
          exact ⟨rounds + 1, hgo (hround shard [] (next :: later)) hrun⟩
      | cons device rest ihRest =>
          rcases ihRest with ⟨rounds, hrun⟩
          exact ⟨rounds + 1,
            hgo (hround shard (device :: rest) (next :: later)) hrun⟩

def SettledTo (map : ShardMap UInt64) (s : LockedRegistry) (count : Nat) :
    Prop :=
  forall index task, index < count -> s.clients[index]? = some task ->
    task.holds map = task.waitsWith map

theorem exists_settled_succ {count : Nat} (hsettled : s.SettledTo map count) :
    exists later t, (forall a, a ∈ later -> GoesOn a) ∧
      Machine.run (step map) s later = some t ∧ t.calls = s.calls ∧
      t.clients.length = s.clients.length ∧
      (forall shard, (waits map).held t shard <-> (waits map).held s shard) ∧
      t.SettledTo map (count + 1) := by
  by_cases hrests : exists shard rest later,
      s.clients[count]? = some (.showing shard rest later false)
  · rcases hrests with ⟨shard, rest, later, hclient⟩
    rcases List.getElem?_eq_some_iff.mp hclient with ⟨hlt, hget⟩
    have hself : s.setClient count (.showing shard rest later false) = s := by
      unfold setClient
      rw [← hget, List.set_getElem_self]
    rcases run_showNext map hlt shard rest later with ⟨rounds, hrun⟩
    rw [hself] at hrun
    refine ⟨_, _, ?_, hrun, rfl, List.length_set, ?_, ?_⟩
    · intro a ha
      rw [List.eq_of_mem_replicate ha]
      rfl
    · intro other
      rw [held_setClient hclient rfl other]
      exact or_iff_left nofun
    · intro index task hindex htask
      rcases Nat.lt_succ_iff_lt_or_eq.mp hindex with hbefore | rfl
      · apply hsettled index task hbefore
        rw [← htask]
        exact (List.getElem?_set_ne (Nat.ne_of_gt hbefore)).symm
      · have hnow : (s.setClient index .listening).clients[index]? =
            some .listening := List.getElem?_set_self hlt
        rw [hnow] at htask
        cases htask
        rfl
  · refine ⟨[], s, nofun, rfl, rfl, rfl, fun _ => Iff.rfl, ?_⟩
    intro index task hindex htask
    rcases Nat.lt_succ_iff_lt_or_eq.mp hindex with hbefore | rfl
    · exact hsettled index task hbefore htask
    · unfold ClientTask.waitsWith
      split
      · exact absurd ⟨_, _, _, htask⟩ hrests
      · rfl

theorem exists_settled (map : ShardMap UInt64) (s : LockedRegistry)
    (count : Nat) :
    exists later t, (forall a, a ∈ later -> GoesOn a) ∧
      Machine.run (step map) s later = some t ∧ t.calls = s.calls ∧
      t.clients.length = s.clients.length ∧
      (forall shard, (waits map).held t shard <-> (waits map).held s shard) ∧
      t.SettledTo map count := by
  induction count with
  | zero =>
      refine ⟨[], s, nofun, rfl, rfl, rfl, fun _ => Iff.rfl, ?_⟩
      intro index task hindex
      cases hindex
  | succ count ih =>
      rcases ih with ⟨first, t, hfirst, hrun, hcalls, hlength, hkept, hsettled⟩
      rcases exists_settled_succ hsettled with
        ⟨second, u, hsecond, hgoes, hcallsU, hlengthU, hkeptU, hsettledU⟩
      refine ⟨first ++ second, u, ?_, ?_, hcallsU.trans hcalls,
        hlengthU.trans hlength, fun shard => (hkeptU shard).trans (hkept shard),
        hsettledU⟩
      · intro a ha
        rcases List.mem_append.mp ha with hin | hin
        · exact hfirst a hin
        · exact hsecond a hin
      · rw [Machine.run_append_of_run hrun]
        exact hgoes

theorem waits_of_isHeld (hsettled : s.SettledTo map s.clients.length)
    {shard : Nat} (hheld : s.isHeld map shard = true) :
    (waits map).held s shard := by
  rcases List.any_eq_true.mp hheld with ⟨task, hmem, htask⟩
  rcases List.mem_iff_getElem?.mp hmem with ⟨index, hindex⟩
  have hlt := (List.getElem?_eq_some_iff.mp hindex).fst
  refine ⟨task, hmem, ?_⟩
  rw [← hsettled index task hlt hindex]
  exact of_decide_eq_true htask

theorem exists_call_of_agenda {task shard : Nat} {rest : List Nat}
    (hnext : (waits map).agenda s task = shard :: rest) :
    exists call, s.calls task = some (call, shard :: rest) := by
  cases hcall : s.calls task with
  | none =>
      change (s.calls task).elim [] _ = _ at hnext
      rw [hcall] at hnext
      cases hnext
  | some pending =>
      rcases pending with ⟨call, shards⟩
      rw [agenda_of_call hcall] at hnext
      subst hnext
      exact ⟨call, rfl⟩

theorem exists_advanced {task shard : Nat} {rest : List Nat}
    (hnext : (waits map).agenda s task = shard :: rest)
    (hfree : ¬ (waits map).held s shard) :
    exists later t, (forall a, a ∈ later -> GoesOn a) ∧
      Machine.run (step map) s later = some t ∧
      (waits map).agenda t task = rest ∧
      forall other, (waits map).held s other -> (waits map).held t other := by
  rcases exists_settled map s s.clients.length with
    ⟨first, t, hfirst, hrun, hcalls, hlength, hsame, hsettled⟩
  rw [← hlength] at hsettled
  have hidle : ¬ t.isHeld map shard = true := by
    intro hheld
    exact hfree ((hsame shard).mp (waits_of_isHeld hsettled hheld))
  rcases exists_call_of_agenda hnext with ⟨call, hcall⟩
  rw [← hcalls] at hcall
  have hstep : step map t (.advance task) =
      some (setCall { t with registry := call.applyIn map shard t.registry }
        task (some (call, rest))) := by
    show t.advance map task = _
    unfold advance
    rw [hcall]
    exact if_neg hidle
  refine ⟨first ++ [.advance task], setCall { t with
    registry := call.applyIn map shard t.registry } task (some (call, rest)),
    ?_, ?_, agenda_setCall, ?_⟩
  · intro a ha
    rcases List.mem_append.mp ha with hin | hin
    · exact hfirst a hin
    · rw [List.mem_singleton.mp hin]
      trivial
  · rw [Machine.run_append_of_run hrun]
    exact Machine.run_cons_of_step hstep []
  · intro other hheld
    exact (hsame other).mpr hheld

theorem clear_init : (waits map).Clear {} := by
  intro shard hpending
  rcases hpending with ⟨writer, hmem⟩
  cases hmem

/--
No write is blocked in a run, however the daemon goes on from any point of it,
exactly if waits begin apart from the writes and writes apart from the waits.
-/
theorem neverBlocked_throughout_iff (map : ShardMap UInt64)
    (actions : List Action) :
    (forall pre later, pre <+: actions -> (forall a, a ∈ later -> GoesOn a) ->
        Machine.Throughout (step map) (NeverBlocked map) {} (pre ++ later)) <->
      Machine.Guarded (step map) (Separate map) {} actions := by
  apply Machine.throughout_extended_iff_guarded (S := fun _ => True)
    (I := (waits map).Clear)
  · intro s a t _ _
    trivial
  · intro s a t h _ hstep hseparate
    exact (clear_step_iff hstep).right h hseparate
  · intro s h
    exact h.unblocked
  · intro s a hgoes
    cases a with
    | advance task => trivial
    | showNext client waiting =>
        intro shard device rest later _ hwaits
        have hgone : waiting = false := hgoes
        cases hgone.symm.trans hwaits
    | begin | connect | deviceList | listen | hear | wake | fail => cases hgoes
  · intro s a t _ hstep hnot
    rcases LockView.exists_of_not_clear
      (fun h => hnot ((clear_step_iff hstep).left h)) with
      ⟨task, shard, hneeds, hheld⟩
    rcases LockView.exists_blocked (fun u first rest => exists_advanced)
      hneeds hheld with ⟨later, u, hlater, hrun, hblocked⟩
    exact ⟨later, u, hlater, hrun, fun h => h task hblocked⟩
  · trivial
  · exact clear_init

/-- A phone is unplugged while a client waits for its answer. -/
theorem not_neverBlocked_unplugged :
    ¬ forall (map : ShardMap UInt64) (actions : List Action),
      Machine.Throughout (step map) (NeverBlocked map) {} actions := by
  intro h
  have hrun := h (.modulo UInt64.toNat 4 (by decide))
    [.begin 0 (.insert (.usb { id := 1, udid := "phone" })), .advance 0,
      .advance 0, .connect 1 true, .begin 0 (.remove 1)]
  have hblocked := hrun.last rfl 0
  exact hblocked ⟨1, [], rfl, .connecting 1, List.mem_singleton_self _, rfl⟩

/-!
## Writes that are let through, and writes that are not
-/

theorem isHeld_of_waits {shard : Nat} (hheld : (waits map).held s shard) :
    s.isHeld map shard = true := by
  rcases hheld with ⟨task, hmem, hwaits⟩
  refine List.any_eq_true.mpr ⟨task, hmem, decide_eq_true ?_⟩
  unfold ClientTask.waitsWith at hwaits
  split at hwaits
  · cases hwaits
  · exact hwaits

theorem waits_respects (map : ShardMap UInt64) :
    (waits map).Respects (step map) := by
  intro s a t hstep task shard hneeds hheld
  have hmoved : forall {moved : Nat} {R : Registry}
      {call : Option (RegistryCall × List Nat)},
      t = setCall { s with registry := R } moved call ->
      (task = moved -> shard ∈ (waits map).agenda t task) ->
        shard ∈ (waits map).agenda t task := by
    intro moved R call ht hsame
    by_cases htask : task = moved
    · exact hsame htask
    · rw [ht, agenda_setCall_of_ne htask]
      exact hneeds
  have hclients : t.calls = s.calls -> shard ∈ (waits map).agenda t task := by
    intro hcalls
    show shard ∈ (t.calls task).elim [] Prod.snd
    rw [hcalls]
    exact hneeds
  cases a with
  | begin moved call =>
      rcases begin_eq_some hstep with ⟨hnone, rfl⟩
      apply hmoved rfl
      intro htask
      subst htask
      change shard ∈ (s.calls task).elim [] Prod.snd at hneeds
      rw [hnone] at hneeds
      cases hneeds
  | advance moved =>
      rcases advance_eq_some hstep with
        ⟨call, hcall, rfl⟩ | ⟨call, first, rest, hcall, hfree, rfl⟩
      · apply hmoved rfl
        intro htask
        subst htask
        rw [agenda_of_call hcall] at hneeds
        cases hneeds
      · apply hmoved rfl
        intro htask
        subst htask
        rw [agenda_of_call hcall] at hneeds
        rw [agenda_setCall]
        rcases List.mem_cons.mp hneeds with rfl | hlater
        · exact absurd (isHeld_of_waits hheld) hfree
        · exact hlater
  | connect id waits =>
      cases hstep
      exact hclients rfl
  | deviceList waits =>
      cases hstep
      exact hclients rfl
  | listen waits =>
      cases hstep
      exact hclients rfl
  | showNext client waits =>
      rcases showNext_eq_some hstep with ⟨_, _, _, _, rfl⟩
      exact hclients rfl
  | hear client event waits =>
      rcases hear_eq_some hstep with ⟨_, rfl⟩
      exact hclients rfl
  | wake client =>
      rcases Option.map_eq_some_iff.mp hstep with ⟨task, _, rfl⟩
      exact hclients rfl
  | fail client =>
      rcases Option.map_eq_some_iff.mp hstep with ⟨before, _, rfl⟩
      exact hclients rfl

theorem pending_while_waiting {actions : List Action} {task shard : Nat}
    (hwaits : Machine.Throughout (step map)
      (fun u => (waits map).held u shard) s actions)
    (hrun : Machine.run (step map) s actions = some t)
    (hneeds : shard ∈ (waits map).agenda s task) :
    shard ∈ (waits map).agenda t task :=
  (waits_respects map).run hwaits hrun hneeds

theorem foldl_applyIn (map : ShardMap UInt64) (call : RegistryCall)
    (R : Registry) :
    (call.shards map).foldl (fun R shard => call.applyIn map shard R) R =
      call.apply R := by
  cases call with
  | insert device => rfl
  | remove id => rfl
  | retain udid =>
      have hkeep : (fun R shard =>
          RegistryCall.applyIn map shard R (.retain udid)) =
            fun (R : Registry) shard => R.filter fun dev =>
              map.shardOf dev.id ≠ shard ||
                (dev.isNetwork || dev.udid ≠ udid) := by
        funext R shard
        simp only [RegistryCall.applyIn, Bool.or_assoc]
      show (map.all).foldl _ R = _
      rw [hkeep]
      exact map.foldl_filter_all Device.id _ R

theorem advance_free {call : RegistryCall} {task shard : Nat}
    {rest : List Nat} {R : Registry} (hfree : s.isHeld map shard = false) :
    advance map (setCall { s with registry := R } task
        (some (call, shard :: rest))) task =
      some (setCall { s with registry := call.applyIn map shard R } task
        (some (call, rest))) := by
  have hcall : (setCall { s with registry := R } task
      (some (call, shard :: rest))).calls task = some (call, shard :: rest) :=
    Function.update_self task _ s.calls
  have hidle : ¬ isHeld map (setCall { s with registry := R } task
      (some (call, shard :: rest))) shard = true := by
    change ¬ s.isHeld map shard = true
    rw [hfree]
    exact Bool.false_ne_true
  unfold advance
  rw [hcall]
  simp only
  rw [if_neg hidle]
  unfold setCall
  simp only [Function.update_idem]

theorem advance_done {call : RegistryCall} {task : Nat} :
    (s.setCall task (some (call, []))).advance map task =
      some (s.setCall task none) := by
  have hcall : (s.setCall task (some (call, []))).calls task =
      some (call, []) := Function.update_self task _ s.calls
  unfold advance
  rw [hcall]
  unfold setCall
  simp only [Function.update_idem]

theorem run_advance {call : RegistryCall} {task : Nat}
    (hfree : forall shard, s.isHeld map shard = false) (shards : List Nat)
    (R : Registry) :
    Machine.run (step map)
        (setCall { s with registry := R } task (some (call, shards)))
        (List.replicate (shards.length + 1) (.advance task)) =
      some (setCall { s with
        registry := shards.foldl (fun R shard => call.applyIn map shard R) R }
        task none) := by
  induction shards generalizing R with
  | nil => exact Machine.run_cons_of_step advance_done []
  | cons shard rest ih =>
      have hstep : step map
          (setCall { s with registry := R } task (some (call, shard :: rest)))
          (.advance task) =
            some (setCall { s with registry := call.applyIn map shard R } task
              (some (call, rest))) := advance_free (hfree shard)
      rw [List.length_cons, List.replicate_succ,
        Machine.run_cons_of_step hstep]
      exact ih _

theorem run_call {call : RegistryCall} {task : Nat}
    (hidle : s.calls task = none)
    (hfree : forall shard, s.isHeld map shard = false) :
    Machine.run (step map) s (.begin task call ::
        List.replicate ((call.shards map).length + 1) (.advance task)) =
      some { s with registry := call.apply s.registry } := by
  have hbegin : step map s (.begin task call) =
      some (s.setCall task (some (call, call.shards map))) := by
    unfold step
    simp only [hidle]
  rw [Machine.run_cons_of_step hbegin]
  refine (run_advance hfree (call.shards map) s.registry).trans ?_
  rw [foldl_applyIn]
  have hcalls : Function.update s.calls task none = s.calls :=
    Function.update_eq_self_iff.mpr hidle.symm
  unfold setCall
  rw [hcalls]

theorem usbConnected_fst (R : Registry) (device : UsbDevice) :
    (R.usbConnected device).fst =
      RegistryCall.apply (RegistryCall.apply R (.retain device.udid))
        (.insert (.usb device)) := rfl

theorem usbDisconnected_fst (R : Registry) (id : UInt64) :
    (R.usbDisconnected id).fst = RegistryCall.apply R (.remove id) := by
  unfold Registry.usbDisconnected Registry.removeDevice
  cases hget : R.get id with
  | none =>
      symm
      apply List.filter_eq_self.mpr
      intro dev hdev
      have hne := List.find?_eq_none.mp hget dev hdev
      simpa using hne
  | some device => rfl

end LockedRegistry

end Watcher
end Rusbmux
