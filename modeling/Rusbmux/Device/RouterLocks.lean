import Rusbmux.Device.Demultiplexing
import Rusbmux.Foundation.ShardLocks

/-!
# The locks of the routes

The routes are a sharded table.  `route` keeps the entry of a port, and with it
the lock of its shard, while it waits for room in the channel; `register` writes
every shard in turn to clean up, and then the shard of each port it tries;
`unregister` and `attach_conn` write the shard of their port.  The calls are
taken one lock at a time, next to the reader loop.
-/

namespace Rusbmux
namespace Device

open Foundation
open Rusbmux.Parser

inductive RouterCall where
  /-- `register` has these shards still to clean up. -/
  | cleaning (shards : List Nat)
  /-- `register` tries a port, and has some probes left after it. -/
  | probing (port : UInt16) (left : Nat)
  | unregistering (port : UInt16)
  | attaching (sourcePort : UInt16) (conn : Nat)

structure LockedRouter where
  demux : Demux := {}
  /-- `route` waits for room with the entry of the port in its hands. -/
  sending : Option (UInt16 × UsbDevicePacket) := none
  calls : Nat -> Option RouterCall := fun _ => none

namespace RouterCall

def agenda (map : ShardMap UInt16) : RouterCall -> List Nat
  | cleaning shards => shards
  | probing port _ => [map.shardOf port]
  | unregistering port => [map.shardOf port]
  | attaching sourcePort _ => [map.shardOf sourcePort]

def IsForOther (port : UInt16) : RouterCall -> Prop
  | cleaning _ => True
  | probing _ _ => True
  | unregistering own => own ≠ port
  | attaching own _ => own ≠ port

end RouterCall

namespace LockedRouter

inductive Action where
  | register (task : Nat)
  | unregister (task : Nat) (port : UInt16)
  | attachConn (task : Nat) (sourcePort : UInt16) (conn : Nat)
  | advance (task : Nat)
  | readPacket (packet : UsbDevicePacket)
  /-- `route` is woken up. -/
  | resume
  | finishRoute
  | readFailed
  | dropReceiver (tx : Nat)
  | take (tx : Nat)

def isHeld (map : ShardMap UInt16) (s : LockedRouter) (shard : Nat) : Bool :=
  s.sending.any fun held => map.shardOf held.fst = shard

def setCall (s : LockedRouter) (task : Nat) (call : Option RouterCall) :
    LockedRouter :=
  { s with calls := Function.update s.calls task call }

def setRouter (s : LockedRouter) (router : PacketRouter) : LockedRouter :=
  { s with demux := { s.demux with router := router } }

def begin (s : LockedRouter) (task : Nat) (call : RouterCall) :
    Option LockedRouter :=
  match s.calls task with
  | none => some (s.setCall task (some call))
  | some _ => none

def nextProbe (s : LockedRouter) (task left : Nat) : LockedRouter :=
  let sp := s.demux.router.nextSourcePort
  let router : PacketRouter :=
    { s.demux.router with nextSourcePort := sp + 1 }
  (s.setRouter router).setCall task
    (some (.probing (if sp = 0 then 1 else sp) left))

def cleanupShard (map : ShardMap UInt16) (s : LockedRouter) (shard : Nat) :
    LockedRouter :=
  s.setRouter { s.demux.router with
    routes := s.demux.router.routes.filter fun entry =>
      map.shardOf entry.port ≠ shard || s.demux.alive entry.tx }

def probe (s : LockedRouter) (task : Nat) (port : UInt16) (left : Nat) :
    LockedRouter :=
  match s.demux.router.get port, left with
  | none, _ =>
      let entry : PacketEntry :=
        { port := port, tx := s.demux.channels.length }
      let demux : Demux :=
        { s.demux with
          router := { s.demux.router with
            routes := entry :: s.demux.router.routes }
          channels := s.demux.channels ++ [{ port := port }] }
      setCall { s with demux := demux } task none
  | some _, 0 => s.setCall task none
  | some _, left + 1 => s.nextProbe task left

def advance (map : ShardMap UInt16) (s : LockedRouter) (task : Nat) :
    Option LockedRouter :=
  match s.calls task with
  | none => none
  | some (.cleaning []) =>
      some (s.nextProbe task (PacketRouter.maxSourcePortProbes - 1))
  | some (.cleaning (shard :: shards)) =>
      if s.isHeld map shard then none
      else some ((s.cleanupShard map shard).setCall task
        (some (.cleaning shards)))
  | some (.probing port left) =>
      if s.isHeld map (map.shardOf port) then none
      else some (s.probe task port left)
  | some (.unregistering port) =>
      if s.isHeld map (map.shardOf port) then none
      else some ((s.setRouter (s.demux.router.unregister port)).setCall task
        none)
  | some (.attaching sourcePort conn) =>
      if s.isHeld map (map.shardOf sourcePort) then none
      else some ((s.setRouter
        (s.demux.router.attachConn sourcePort conn)).setCall task none)

def portOf (packet : UsbDevicePacket) : UInt16 :=
  packet.tcpHdr.elim 0 fun h => h.destinationPort

def readPacket (s : LockedRouter) (packet : UsbDevicePacket) :
    Option LockedRouter :=
  if s.sending.isSome || s.demux.stopped || s.demux.unregistering.isSome then
    none
  else
    match s.demux.readPacket packet with
    | some demux => some { s with demux := demux }
    | none => some { s with sending := some (portOf packet, packet) }

def resume (s : LockedRouter) : Option LockedRouter :=
  match s.sending with
  | none => none
  | some (_, packet) =>
      (s.demux.readPacket packet).map fun demux =>
        { s with demux := demux, sending := none }

def ofDemux (s : LockedRouter) (a : Demux.Action) : Option LockedRouter :=
  (Demux.step s.demux a).map fun demux => { s with demux := demux }

def step (map : ShardMap UInt16) : Machine LockedRouter Action := fun s a =>
  match a with
  | .register task => s.begin task (.cleaning map.all)
  | .unregister task port => s.begin task (.unregistering port)
  | .attachConn task sourcePort conn =>
      s.begin task (.attaching sourcePort conn)
  | .advance task => s.advance map task
  | .readPacket packet => s.readPacket packet
  | .resume => s.resume
  | .finishRoute => s.ofDemux .finishRoute
  | .readFailed => if s.sending.isSome then none else s.ofDemux .readFailed
  | .dropReceiver tx => s.ofDemux (.dropReceiver tx)
  | .take tx => s.ofDemux (.take tx)

def locks (map : ShardMap UInt16) : LockView LockedRouter Nat where
  held s shard := s.isHeld map shard = true
  agenda s task := (s.calls task).elim [] (RouterCall.agenda map)

def Suspended (s : LockedRouter) (port : UInt16) : Prop :=
  exists packet entry, s.sending = some (port, packet) ∧
    s.demux.router.get port = some entry ∧
    s.demux.alive entry.tx = true ∧ s.demux.hasRoom entry.tx = false

/-- No call for another connection is blocked by a suspended `route`. -/
def NeverBlocked (map : ShardMap UInt16) (s : LockedRouter) : Prop :=
  forall port task call, s.Suspended port -> s.calls task = some call ->
    call.IsForOther port -> ¬ (locks map).Blocked s task

/--
A call stands still exactly if the next shard it writes is that of the port for
which `route` waits: a `register` call that begins writes every shard, and no
call that writes the shard returns as long as `route` is suspended.  `route`
goes on when the connection takes a packet or goes away, and nobody is blocked.
-/
structure BlocksExactly (map : ShardMap UInt16) (s : LockedRouter) : Prop where
  blocked_iff : forall task call, s.calls task = some call ->
    (step map s (.advance task) = none <->
      exists port packet shards, s.sending = some (port, packet) ∧
        call.agenda map = map.shardOf port :: shards)
  register : forall task t, step map s (.register task) = some t ->
    forall port, map.shardOf port ∈ (locks map).agenda t task
  lasts : forall later t port task,
    Machine.Throughout (step map) (fun u => u.Suspended port) s later ->
    Machine.run (step map) s later = some t ->
    map.shardOf port ∈ (locks map).agenda s task ->
      map.shardOf port ∈ (locks map).agenda t task
  resumes : forall port packet, s.sending = some (port, packet) ->
    exists entry, s.demux.router.get port = some entry ∧
      (step map s .resume = none <->
        s.demux.alive entry.tx = true ∧ s.demux.hasRoom entry.tx = false) ∧
      forall t task, step map s .resume = some t ->
        ¬ (locks map).Blocked t task

end LockedRouter

/-!
## A packet that is not handed on
-/

namespace Demux

variable {s : Demux} {packet : UsbDevicePacket}

theorem any_owe {p : PacketChannel -> Bool}
    (hp : forall c, p (c.owe packet) = p c) (s : Demux) (tx : Nat) :
    (s.owe packet).channels[tx]?.any p = s.channels[tx]?.any p := by
  rw [getElem?_owe]
  cases s.channels[tx]? with
  | none => rfl
  | some c =>
      simp only [Option.map_some, Option.any_some]
      split
      · exact hp c
      · rfl

theorem alive_owe (s : Demux) (packet : UsbDevicePacket) (tx : Nat) :
    (s.owe packet).alive tx = s.alive tx :=
  any_owe (fun _ => rfl) s tx

theorem hasRoom_owe (s : Demux) (packet : UsbDevicePacket) (tx : Nat) :
    (s.owe packet).hasRoom tx = s.hasRoom tx :=
  any_owe (fun _ => rfl) s tx

theorem route_eq_none_iff :
    s.route packet = none <->
      exists entry, s.router.get (LockedRouter.portOf packet) = some entry ∧
        s.alive entry.tx = true ∧ s.hasRoom entry.tx = false := by
  cases hget : s.router.get (LockedRouter.portOf packet) with
  | none =>
      rw [route_of_get_none hget]
      constructor
      · intro hnone
        cases hnone
      · intro hsome
        rcases hsome with ⟨entry, hentry, _⟩
        cases hentry
  | some entry =>
      rw [route_of_get hget]
      cases halive : s.alive entry.tx <;> cases hroom : s.hasRoom entry.tx <;>
        simp [halive, hroom]

theorem readPacket_eq_none_iff (hstopped : s.stopped = false)
    (hunregistering : s.unregistering = none) :
    s.readPacket packet = none <->
      (forall hdr, packet.tcpHdr = some hdr -> hdr.rst = false) ∧
        exists entry, s.router.get (LockedRouter.portOf packet) = some entry ∧
          s.alive entry.tx = true ∧ s.hasRoom entry.tx = false := by
  have hroute : (s.owe packet).route packet = none <->
      exists entry, s.router.get (LockedRouter.portOf packet) = some entry ∧
        s.alive entry.tx = true ∧ s.hasRoom entry.tx = false := by
    rw [route_eq_none_iff]
    simp only [alive_owe, hasRoom_owe]
    exact Iff.rfl
  rw [← hroute]
  unfold readPacket dispatch
  rw [hstopped, hunregistering]
  cases hhdr : packet.tcpHdr with
  | none => simp
  | some hdr =>
      cases hrst : hdr.rst with
      | true => simp [hrst]
      | false => simp [hrst]

end Demux

namespace PacketRouter

theorem get_attachConn_of_ne {r : PacketRouter} {port sourcePort : UInt16}
    (hne : port ≠ sourcePort) (conn : Nat) :
    (r.attachConn sourcePort conn).get port = r.get port := by
  rw [get_attachConn]
  cases hget : r.get port with
  | none => rfl
  | some entry =>
      have hport : entry.port = port := (mem_of_get hget).right
      rw [Option.map_some, if_neg]
      rw [hport]
      exact hne

theorem get_filter {r : PacketRouter} {port : UInt16}
    {keep : PacketEntry -> Bool}
    (hkeep : forall entry, entry.port = port -> keep entry = true) :
    ({ r with routes := r.routes.filter keep } : PacketRouter).get port =
      r.get port := by
  unfold get
  rw [List.find?_filter]
  apply congrArg (fun p => r.routes.find? p)
  funext entry
  by_cases hport : entry.port = port
  · simp [hport, hkeep entry hport]
  · simp [hport]

theorem get_cons_of_ne {r : PacketRouter} {port : UInt16} {entry : PacketEntry}
    (hne : entry.port ≠ port) :
    ({ r with routes := entry :: r.routes } : PacketRouter).get port =
      r.get port := by
  unfold get
  rw [List.find?_cons_of_neg]
  simpa using hne

end PacketRouter

namespace LockedRouter

variable {map : ShardMap UInt16} {s t : LockedRouter}

/-!
## Calls and the shards they write
-/

theorem isHeld_iff {shard : Nat} :
    s.isHeld map shard = true <->
      exists port packet, s.sending = some (port, packet) ∧
        map.shardOf port = shard := by
  unfold isHeld
  cases s.sending with
  | none => simp
  | some held =>
      rcases held with ⟨port, packet⟩
      simp

theorem agenda_of_call {task : Nat} {call : RouterCall}
    (hcall : s.calls task = some call) :
    (locks map).agenda s task = call.agenda map := by
  show (s.calls task).elim [] (RouterCall.agenda map) = _
  rw [hcall]
  rfl

theorem advance_of_held {task : Nat} {call : RouterCall} {shard : Nat}
    {shards : List Nat} (hcall : s.calls task = some call)
    (hagenda : call.agenda map = shard :: shards)
    (hheld : s.isHeld map shard = true) : s.advance map task = none := by
  unfold advance
  rw [hcall]
  cases call with
  | cleaning cleaned =>
      cases hagenda
      exact if_pos hheld
  | probing port left =>
      cases hagenda
      exact if_pos hheld
  | unregistering port =>
      cases hagenda
      exact if_pos hheld
  | attaching sourcePort conn =>
      cases hagenda
      exact if_pos hheld

theorem held_of_advance {task : Nat} {call : RouterCall}
    (hcall : s.calls task = some call) (hnone : s.advance map task = none) :
    exists shard shards, call.agenda map = shard :: shards ∧
      s.isHeld map shard = true := by
  have hcondition : forall {p : Prop} [Decidable p] {next : LockedRouter},
      (if p then none else some next) = none -> p := by
    intro p _ next hif
    by_contra hnot
    rw [if_neg hnot] at hif
    cases hif
  unfold advance at hnone
  rw [hcall] at hnone
  cases call with
  | cleaning shards =>
      cases shards with
      | nil => cases hnone
      | cons shard shards => exact ⟨shard, shards, rfl, hcondition hnone⟩
  | probing port left => exact ⟨_, _, rfl, hcondition hnone⟩
  | unregistering port => exact ⟨_, _, rfl, hcondition hnone⟩
  | attaching sourcePort conn => exact ⟨_, _, rfl, hcondition hnone⟩

theorem blocked_iff {task : Nat} {call : RouterCall}
    (hcall : s.calls task = some call) :
    step map s (.advance task) = none <->
      exists port packet shards, s.sending = some (port, packet) ∧
        call.agenda map = map.shardOf port :: shards := by
  constructor
  · intro hnone
    rcases held_of_advance hcall hnone with ⟨shard, shards, hagenda, hheld⟩
    rcases isHeld_iff.mp hheld with ⟨port, packet, hsending, rfl⟩
    exact ⟨port, packet, shards, hsending, hagenda⟩
  · intro hsome
    rcases hsome with ⟨port, packet, shards, hsending, hagenda⟩
    exact advance_of_held hcall hagenda
      (isHeld_iff.mpr ⟨port, packet, hsending, rfl⟩)

theorem calls_ofDemux {a : Demux.Action} (hstep : s.ofDemux a = some t) :
    t.calls = s.calls ∧ t.sending = s.sending := by
  rcases Option.map_eq_some_iff.mp hstep with ⟨demux, _, rfl⟩
  exact ⟨rfl, rfl⟩

theorem calls_readPacket {packet : UsbDevicePacket}
    (hstep : s.readPacket packet = some t) : t.calls = s.calls := by
  have hnext := (Machine.of_disabled_if hstep).right
  split at hnext
  · cases hnext
    rfl
  · cases hnext
    rfl

theorem begin_eq_some {task : Nat} {call : RouterCall}
    (hstep : s.begin task call = some t) :
    s.calls task = none ∧ t = s.setCall task (some call) := by
  unfold begin at hstep
  split at hstep
  · rename_i hnone
    exact ⟨hnone, (Option.some.inj hstep).symm⟩
  · cases hstep

theorem advance_eq_some {task : Nat} (hstep : s.advance map task = some t) :
    (forall other, other ≠ task -> t.calls other = s.calls other) ∧
      t.sending = s.sending ∧
      forall shard, shard ∈ (locks map).agenda s task ->
        s.isHeld map shard = true -> shard ∈ (locks map).agenda t task := by
  have hother : forall {u : LockedRouter} {call : Option RouterCall},
      u.calls = s.calls -> forall other, other ≠ task ->
        (u.setCall task call).calls other = s.calls other := by
    intro u call hcalls other hne
    show Function.update u.calls task call other = s.calls other
    rw [Function.update_of_ne hne, hcalls]
  have hsingle : forall {call : RouterCall} {needed : Nat},
      s.calls task = some call -> call.agenda map = [needed] ->
      ¬ s.isHeld map needed = true ->
      forall shard, shard ∈ (locks map).agenda s task ->
        s.isHeld map shard = true -> shard ∈ (locks map).agenda t task := by
    intro call needed hcall hagenda hfree shard hshard hheld
    rw [agenda_of_call hcall, hagenda] at hshard
    rw [List.mem_singleton.mp hshard] at hheld
    exact absurd hheld hfree
  unfold advance at hstep
  split at hstep
  · cases hstep
  · rename_i hcall
    cases hstep
    refine ⟨hother rfl, rfl, ?_⟩
    intro shard hshard
    rw [agenda_of_call hcall] at hshard
    cases hshard
  · rename_i shard shards hcall
    rcases Machine.of_disabled_if hstep with ⟨hfree, hnext⟩
    cases hnext
    refine ⟨hother rfl, rfl, ?_⟩
    intro other hneeded hheld
    rw [agenda_of_call hcall] at hneeded
    have hlaterCall : ((s.cleanupShard map shard).setCall task
        (some (.cleaning shards))).calls task = some (.cleaning shards) :=
      Function.update_self _ _ _
    have hagenda : (locks map).agenda
        ((s.cleanupShard map shard).setCall task (some (.cleaning shards)))
        task = shards :=
      agenda_of_call hlaterCall
    rw [hagenda]
    rcases List.mem_cons.mp hneeded with rfl | hlater
    · exact absurd hheld hfree
    · exact hlater
  · rename_i port left hcall
    rcases Machine.of_disabled_if hstep with ⟨hfree, hnext⟩
    refine ⟨?_, ?_, hsingle hcall rfl hfree⟩
    · cases hnext
      unfold probe
      split
      · exact hother rfl
      · exact hother rfl
      · exact hother rfl
    · cases hnext
      unfold probe
      split
      · rfl
      · rfl
      · rfl
  · rename_i port hcall
    rcases Machine.of_disabled_if hstep with ⟨hfree, hnext⟩
    refine ⟨?_, ?_, hsingle hcall rfl hfree⟩
    · cases hnext
      exact hother rfl
    · cases hnext
      rfl
  · rename_i sourcePort conn hcall
    rcases Machine.of_disabled_if hstep with ⟨hfree, hnext⟩
    refine ⟨?_, ?_, hsingle hcall rfl hfree⟩
    · cases hnext
      exact hother rfl
    · cases hnext
      rfl

theorem agenda_congr {task : Nat} (hcalls : t.calls task = s.calls task) :
    (locks map).agenda t task = (locks map).agenda s task := by
  show (t.calls task).elim [] _ = (s.calls task).elim [] _
  rw [hcalls]

theorem agenda_begin {task other : Nat} {call : RouterCall} {shard : Nat}
    (hstep : s.begin task call = some t)
    (hshard : shard ∈ (locks map).agenda s other) :
    shard ∈ (locks map).agenda t other := by
  rcases begin_eq_some hstep with ⟨hnone, rfl⟩
  by_cases hsame : other = task
  · subst hsame
    change shard ∈ (s.calls other).elim [] (RouterCall.agenda map) at hshard
    rw [hnone] at hshard
    cases hshard
  · rw [agenda_congr]
    · exact hshard
    · exact Function.update_of_ne hsame _ _

theorem locks_respects (map : ShardMap UInt16) :
    (locks map).Respects (step map) := by
  intro s a t hstep task shard hshard hheld
  have hsame : t.calls = s.calls -> shard ∈ (locks map).agenda t task := by
    intro hcalls
    rw [agenda_congr (congrFun hcalls task)]
    exact hshard
  cases a with
  | register other => exact agenda_begin hstep hshard
  | unregister other port => exact agenda_begin hstep hshard
  | attachConn other sourcePort conn => exact agenda_begin hstep hshard
  | advance other =>
      rcases advance_eq_some hstep with ⟨hothers, _, hkept⟩
      by_cases htask : task = other
      · subst htask
        exact hkept shard hshard hheld
      · rw [agenda_congr (hothers task htask)]
        exact hshard
  | readPacket packet => exact hsame (calls_readPacket hstep)
  | resume =>
      change s.resume = some t at hstep
      unfold resume at hstep
      split at hstep
      · cases hstep
      · rcases Option.map_eq_some_iff.mp hstep with ⟨demux, _, rfl⟩
        exact hsame rfl
  | finishRoute => exact hsame (calls_ofDemux hstep).left
  | readFailed =>
      exact hsame (calls_ofDemux (Machine.of_disabled_if hstep).right).left
  | dropReceiver tx => exact hsame (calls_ofDemux hstep).left
  | take tx => exact hsame (calls_ofDemux hstep).left

/-!
## What `route` waits for
-/

structure Waiting (s : LockedRouter) (port : UInt16)
    (packet : UsbDevicePacket) : Prop where
  port_eq : port = portOf packet
  not_rst : forall hdr, packet.tcpHdr = some hdr -> hdr.rst = false
  entry : exists entry, s.demux.router.get port = some entry
  running : s.demux.stopped = false
  settled : s.demux.unregistering = none

def Invariant (s : LockedRouter) : Prop :=
  forall port packet, s.sending = some (port, packet) -> s.Waiting port packet

theorem Waiting.of_get {port : UInt16} {packet : UsbDevicePacket}
    (h : s.Waiting port packet)
    (hget : t.demux.router.get port = s.demux.router.get port)
    (hstopped : t.demux.stopped = s.demux.stopped)
    (hunregistering : t.demux.unregistering = s.demux.unregistering) :
    t.Waiting port packet where
  port_eq := h.port_eq
  not_rst := h.not_rst
  entry := by
    rw [hget]
    exact h.entry
  running := hstopped.trans h.running
  settled := hunregistering.trans h.settled

theorem Invariant.of_demux (h : s.Invariant) (hsending : t.sending = s.sending)
    (hdemux : t.demux = s.demux) : t.Invariant := by
  intro port packet hwaiting
  rw [hsending] at hwaiting
  apply (h port packet hwaiting).of_get
  · rw [hdemux]
  · rw [hdemux]
  · rw [hdemux]

theorem shard_ne_of_free {port : UInt16} {packet : UsbDevicePacket}
    {shard : Nat} (hfree : ¬ s.isHeld map shard = true)
    (hsending : s.sending = some (port, packet)) :
    map.shardOf port ≠ shard := by
  intro hshard
  exact hfree (isHeld_iff.mpr ⟨port, packet, hsending, hshard⟩)

theorem port_ne_of_free {port other : UInt16} {packet : UsbDevicePacket}
    (hfree : ¬ s.isHeld map (map.shardOf other) = true)
    (hsending : s.sending = some (port, packet)) : port ≠ other := by
  intro hport
  exact shard_ne_of_free hfree hsending (congrArg map.shardOf hport)

theorem get_cleanupShard {port : UInt16} {shard : Nat}
    (hne : map.shardOf port ≠ shard) :
    (s.cleanupShard map shard).demux.router.get port =
      s.demux.router.get port := by
  apply PacketRouter.get_filter
  intro entry hport
  rw [hport, Bool.or_eq_true]
  exact Or.inl (decide_eq_true hne)

theorem get_probe {task left : Nat} {port other : UInt16}
    (hne : port ≠ other) :
    (s.probe task other left).demux.router.get port =
        s.demux.router.get port ∧
      (s.probe task other left).demux.stopped = s.demux.stopped ∧
      (s.probe task other left).demux.unregistering =
        s.demux.unregistering := by
  unfold probe
  split
  · exact ⟨PacketRouter.get_cons_of_ne (Ne.symm hne), rfl, rfl⟩
  · exact ⟨rfl, rfl, rfl⟩
  · exact ⟨rfl, rfl, rfl⟩

theorem get_unregister {port other : UInt16} {r : PacketRouter}
    (hne : port ≠ other) : (r.unregister other).get port = r.get port := by
  apply PacketRouter.get_filter
  intro entry hport
  rw [hport]
  exact decide_eq_true hne

theorem invariant_advance {task : Nat} (h : s.Invariant)
    (hstep : s.advance map task = some t) : t.Invariant := by
  intro port packet hwaiting
  rw [(advance_eq_some hstep).right.left] at hwaiting
  have hold : s.Waiting port packet := h port packet hwaiting
  unfold advance at hstep
  split at hstep
  · cases hstep
  · cases hstep
    exact hold.of_get rfl rfl rfl
  · rcases Machine.of_disabled_if hstep with ⟨hfree, hnext⟩
    cases hnext
    exact hold.of_get (get_cleanupShard (shard_ne_of_free hfree hwaiting))
      rfl rfl
  · rcases Machine.of_disabled_if hstep with ⟨hfree, hnext⟩
    cases hnext
    rcases get_probe (port_ne_of_free hfree hwaiting) with
      ⟨hget, hstopped, hunregistering⟩
    exact hold.of_get hget hstopped hunregistering
  · rcases Machine.of_disabled_if hstep with ⟨hfree, hnext⟩
    cases hnext
    exact hold.of_get (get_unregister (port_ne_of_free hfree hwaiting)) rfl rfl
  · rcases Machine.of_disabled_if hstep with ⟨hfree, hnext⟩
    cases hnext
    exact hold.of_get (PacketRouter.get_attachConn_of_ne
      (port_ne_of_free hfree hwaiting) _) rfl rfl

theorem invariant_readPacket {packet : UsbDevicePacket}
    (hstep : s.readPacket packet = some t) : t.Invariant := by
  intro port held hwaiting
  rcases Machine.of_disabled_if hstep with ⟨henabled, hnext⟩
  simp only [Bool.or_eq_true, not_or, Bool.not_eq_true] at henabled
  rcases henabled with ⟨⟨hsending, hstopped⟩, hunregistering⟩
  split at hnext
  · cases hnext
    change s.sending = some (port, held) at hwaiting
    rw [hwaiting] at hsending
    cases hsending
  · rename_i hnone
    cases hnext
    cases hwaiting
    have hsettled : s.demux.unregistering = none :=
      Option.isNone_iff_eq_none.mp
        (Option.isSome_eq_false_iff.mp hunregistering)
    rcases (Demux.readPacket_eq_none_iff hstopped hsettled).mp hnone with
      ⟨hrst, entry, hget, _⟩
    exact ⟨rfl, hrst, ⟨entry, hget⟩, hstopped, hsettled⟩

theorem invariant_step {a : Action} (h : s.Invariant)
    (hstep : step map s a = some t) : t.Invariant := by
  cases a with
  | register task =>
      rcases begin_eq_some hstep with ⟨_, rfl⟩
      exact h.of_demux rfl rfl
  | unregister task port =>
      rcases begin_eq_some hstep with ⟨_, rfl⟩
      exact h.of_demux rfl rfl
  | attachConn task sourcePort conn =>
      rcases begin_eq_some hstep with ⟨_, rfl⟩
      exact h.of_demux rfl rfl
  | advance task => exact invariant_advance h hstep
  | readPacket packet => exact invariant_readPacket hstep
  | resume =>
      change s.resume = some t at hstep
      unfold resume at hstep
      split at hstep
      · cases hstep
      · rcases Option.map_eq_some_iff.mp hstep with ⟨demux, _, rfl⟩
        intro port packet hwaiting
        cases hwaiting
  | finishRoute =>
      rcases Option.map_eq_some_iff.mp hstep with ⟨demux, hfinish, rfl⟩
      rcases Option.map_eq_some_iff.mp hfinish with ⟨port, hport, rfl⟩
      intro other packet hwaiting
      have hsettled : s.demux.unregistering = none :=
        (h other packet hwaiting).settled
      rw [hport] at hsettled
      cases hsettled
  | readFailed =>
      rcases Machine.of_disabled_if hstep with ⟨hsending, hnext⟩
      intro port packet hwaiting
      rw [(calls_ofDemux hnext).right] at hwaiting
      rw [hwaiting] at hsending
      exact absurd rfl hsending
  | dropReceiver tx =>
      cases hstep
      intro port packet hwaiting
      exact (h port packet hwaiting).of_get rfl rfl rfl
  | take tx =>
      cases hstep
      intro port packet hwaiting
      exact (h port packet hwaiting).of_get rfl rfl rfl

theorem register_agenda {task : Nat} (hstep : step map s (.register task) =
    some t) (port : UInt16) :
    map.shardOf port ∈ (locks map).agenda t task := by
  rcases begin_eq_some hstep with ⟨_, rfl⟩
  have hcall : (s.setCall task (some (.cleaning map.all))).calls task =
      some (.cleaning map.all) := Function.update_self _ _ _
  rw [agenda_of_call hcall]
  exact map.shardOf_mem_all port

theorem resume_eq_none_iff {port : UInt16} {packet : UsbDevicePacket}
    {entry : PacketEntry} (hsending : s.sending = some (port, packet))
    (h : s.Waiting port packet)
    (hget : s.demux.router.get port = some entry) :
    s.resume = none <->
      s.demux.alive entry.tx = true ∧ s.demux.hasRoom entry.tx = false := by
  unfold resume
  rw [hsending]
  simp only [Option.map_eq_none_iff]
  rw [Demux.readPacket_eq_none_iff h.running h.settled, ← h.port_eq]
  constructor
  · intro hwaits
    rcases hwaits with ⟨_, other, hother, hfull⟩
    cases hget.symm.trans hother
    exact hfull
  · intro hfull
    exact ⟨h.not_rst, entry, hget, hfull⟩

theorem free_of_resume (hstep : s.resume = some t) (shard : Nat) :
    ¬ (locks map).held t shard := by
  unfold resume at hstep
  split at hstep
  · cases hstep
  · rcases Option.map_eq_some_iff.mp hstep with ⟨demux, _, rfl⟩
    intro hheld
    cases hheld

theorem Invariant.blocksExactly (h : s.Invariant) : s.BlocksExactly map where
  blocked_iff := fun _ _ hcall => blocked_iff hcall
  register := fun _ _ hstep port => register_agenda hstep port
  lasts := by
    intro later t port task hsuspended hrun hneeds
    apply (locks_respects map).run _ hrun hneeds
    intro pre u hpre hpart
    rcases hsuspended pre u hpre hpart with ⟨packet, _, hsending, _⟩
    exact isHeld_iff.mpr ⟨port, packet, hsending, rfl⟩
  resumes := by
    intro port packet hsending
    have hwaiting : s.Waiting port packet := h port packet hsending
    rcases hwaiting.entry with ⟨entry, hget⟩
    refine ⟨entry, hget, resume_eq_none_iff hsending hwaiting hget, ?_⟩
    intro t task hstep
    exact LockView.not_blocked_of_free (free_of_resume hstep)

theorem blocksExactly_throughout (map : ShardMap UInt16)
    (actions : List Action) :
    Machine.Throughout (step map) (BlocksExactly map) {} actions := by
  have hinit : ({} : LockedRouter).Invariant := by
    intro port packet hsending
    cases hsending
  intro pre t _ hrun
  have hinvariant : t.Invariant :=
    Machine.run_invariant (fun s a u hs hstep => invariant_step hs hstep)
      hinit hrun
  exact hinvariant.blocksExactly

/-!
## A connection that takes nothing
-/

namespace SlowConnection

def packet : UsbDevicePacket where
  header := .v1 (.new .tcp 28)
  tcpHdr := some
    { sourcePort := 62078, destinationPort := 1, sequenceNumber := 1
      acknowledgmentNumber := 1, ack := true, windowSize := 512 }
  payload := .bytes []

def demux (count : Nat) : Demux where
  router := { routes := [{ port := 1, tx := 0 }], nextSourcePort := 2 }
  channels :=
    [{ port := 1, sent := List.replicate count packet
       due := List.replicate count packet }]

def fourShards : ShardMap UInt16 :=
  .modulo UInt16.toNat 4 (by decide)

def opening : List Action :=
  .register 0 :: List.replicate 6 (.advance 0)

def filling : List Action :=
  List.replicate PacketChannel.capacity (.readPacket packet) ++
    [.readPacket packet, .register 1, .advance 1]

theorem readPacket_demux (count : Nat) :
    (demux count).readPacket packet =
      if count < PacketChannel.capacity then some (demux (count + 1))
      else none := by
  have howe : (demux count).owe packet = { demux count with
      channels := [{ port := 1, sent := List.replicate count packet
                     due := List.replicate (count + 1) packet }] } := by
    rw [List.replicate_succ']
    rfl
  have hroom : PacketChannel.hasRoom
      { port := 1, sent := List.replicate count packet
        due := List.replicate (count + 1) packet } =
      decide (count < PacketChannel.capacity) := by
    unfold PacketChannel.hasRoom
    simp
  show ((demux count).owe packet).route packet = _
  have hget : (demux count).router.get 1 = some { port := 1, tx := 0 } := rfl
  rw [howe, Demux.route_of_get hget]
  show (if PacketChannel.hasRoom _ = true then _ else none) = _
  rw [hroom]
  by_cases hlt : count < PacketChannel.capacity
  · rw [if_pos (decide_eq_true hlt), if_pos hlt]
    unfold demux
    rw [List.replicate_succ']
    rfl
  · rw [if_neg (by simpa using hlt), if_neg hlt]

theorem run_fill (map : ShardMap UInt16) (calls : Nat -> Option RouterCall)
    (rest : List Action) (n count : Nat)
    (hroom : count + n <= PacketChannel.capacity) :
    Machine.run (step map) { demux := demux count, calls := calls }
        (List.replicate n (.readPacket packet) ++ rest) =
      Machine.run (step map) { demux := demux (count + n), calls := calls }
        rest := by
  induction n generalizing count with
  | zero => rfl
  | succ n ih =>
      have hread : (demux count).readPacket packet =
          some (demux (count + 1)) := by
        rw [readPacket_demux, if_pos (by omega)]
      have hstep : step map { demux := demux count, calls := calls }
          (.readPacket packet) =
            some { demux := demux (count + 1), calls := calls } := by
        show (match (demux count).readPacket packet with
          | some demux => some _
          | none => _) = _
        rw [hread]
      rw [List.replicate_succ, List.cons_append,
        Machine.run_cons_of_step hstep, ih (count + 1) (by omega),
        Nat.add_right_comm, Nat.add_assoc]

theorem run_opening (rest : List Action) :
    exists calls, calls 1 = none ∧
      Machine.run (step fourShards) {} (opening ++ rest) =
        Machine.run (step fourShards) { demux := demux 0, calls := calls }
          rest :=
  ⟨_, rfl, rfl⟩

theorem run_waiting {calls : Nat -> Option RouterCall} {count : Nat}
    (hcalls : calls 1 = none) (hfull : ¬ count < PacketChannel.capacity) :
    exists t, Machine.run (step fourShards)
        { demux := demux count, calls := calls }
        [.readPacket packet, .register 1, .advance 1] = some t ∧
      t.Suspended 1 ∧ t.calls 1 = some (.cleaning [1, 2, 3]) ∧
        (locks fourShards).Blocked t 1 := by
  have hwaits : (demux count).readPacket packet = none := by
    rw [readPacket_demux, if_neg hfull]
  have hread : step fourShards { demux := demux count, calls := calls }
      (.readPacket packet) =
        some { demux := demux count, calls := calls
               sending := some (1, packet) } := by
    show (match (demux count).readPacket packet with
      | some demux => some _
      | none => some _) = _
    rw [hwaits]
    rfl
  have hbegin : step fourShards
      { demux := demux count, calls := calls, sending := some (1, packet) }
      (.register 1) =
        some { demux := demux count, sending := some (1, packet)
               calls := Function.update calls 1
                 (some (.cleaning [0, 1, 2, 3])) } := by
    show (match calls 1 with
      | none => some _
      | some _ => none) = _
    rw [hcalls]
    rfl
  rw [Machine.run_cons_of_step hread, Machine.run_cons_of_step hbegin]
  refine ⟨_, rfl, ⟨packet, { port := 1, tx := 0 }, rfl, rfl, rfl, ?_⟩, rfl,
    1, [2, 3], rfl, rfl⟩
  show PacketChannel.hasRoom _ = false
  unfold PacketChannel.hasRoom
  simpa using hfull

theorem run_filling {calls : Nat -> Option RouterCall}
    (hcalls : calls 1 = none) :
    exists t, Machine.run (step fourShards)
        { demux := demux 0, calls := calls } filling = some t ∧
      t.Suspended 1 ∧ t.calls 1 = some (.cleaning [1, 2, 3]) ∧
        (locks fourShards).Blocked t 1 := by
  unfold filling
  rw [run_fill fourShards calls _ _ 0 (by decide), Nat.zero_add]
  exact run_waiting hcalls (Nat.lt_irrefl _)

end SlowConnection

/-- A call for another connection waits for a `route` that waits for room. -/
theorem not_neverBlocked_slowConnection :
    ¬ forall (map : ShardMap UInt16) (actions : List Action),
      Machine.Throughout (step map) (NeverBlocked map) {} actions := by
  intro h
  rcases SlowConnection.run_opening SlowConnection.filling with
    ⟨calls, hcalls, hopening⟩
  rcases SlowConnection.run_filling hcalls with
    ⟨t, hrun, hsuspended, hcall, hblocked⟩
  have hnever : t.NeverBlocked SlowConnection.fourShards :=
    (h SlowConnection.fourShards
      (SlowConnection.opening ++ SlowConnection.filling)).last
      (hopening.trans hrun)
  exact hnever 1 1 _ hsuspended hcall trivial hblocked

/-!
## A call that nobody is in the way of
-/

theorem free_of_idle (hsending : s.sending = none) (shard : Nat) :
    ¬ s.isHeld map shard = true := by
  unfold isHeld
  rw [hsending]
  exact Bool.false_ne_true

def registering (s : LockedRouter) (task : Nat) (router : PacketRouter)
    (call : RouterCall) : LockedRouter :=
  (s.setRouter router).setCall task (some call)

theorem calls_registering {task : Nat} {router : PacketRouter}
    {call : RouterCall} :
    (s.registering task router call).calls task = some call :=
  Function.update_self task _ s.calls

theorem run_cleaning {task : Nat} (hsending : s.sending = none)
    (shards : List Nat) (routes : List PacketEntry) :
    Machine.run (step map)
        (s.registering task { s.demux.router with routes := routes }
          (.cleaning shards))
        (List.replicate shards.length (.advance task)) =
      some (s.registering task { s.demux.router with
        routes := shards.foldl (fun l shard => l.filter fun entry =>
          map.shardOf entry.port ≠ shard || s.demux.alive entry.tx) routes }
        (.cleaning [])) := by
  induction shards generalizing routes with
  | nil => rfl
  | cons shard rest ih =>
      have hstep : step map
          (s.registering task { s.demux.router with routes := routes }
            (.cleaning (shard :: rest))) (.advance task) =
          some (s.registering task { s.demux.router with
            routes := routes.filter fun entry =>
              map.shardOf entry.port ≠ shard || s.demux.alive entry.tx }
            (.cleaning rest)) := by
        have hfree : ¬ isHeld map (s.registering task
            { s.demux.router with routes := routes }
            (.cleaning (shard :: rest))) shard = true :=
          free_of_idle hsending shard
        show advance _ _ _ = _
        unfold advance
        rw [calls_registering]
        simp only
        rw [if_neg hfree]
        unfold registering cleanupShard setCall setRouter
        simp only [Function.update_idem]
        rfl
      rw [List.length_cons, List.replicate_succ,
        Machine.run_cons_of_step hstep]
      exact ih _

theorem advance_probing {task left : Nat} {port : UInt16}
    {router : PacketRouter} (hsending : s.sending = none) :
    step map (s.registering task router (.probing port left))
        (.advance task) =
      some ((s.registering task router (.probing port left)).probe task port
        left) := by
  have hfree : ¬ isHeld map (s.registering task router (.probing port left))
      (map.shardOf port) = true := free_of_idle hsending (map.shardOf port)
  show advance _ _ _ = _
  unfold advance
  rw [calls_registering]
  simp only
  rw [if_neg hfree]

theorem registering_setCall_none {task : Nat} {call : RouterCall}
    {router : PacketRouter} (hidle : s.calls task = none) (demux : Demux) :
    setCall { s.registering task router call with demux := demux } task none =
      { s with demux := demux } := by
  have hcalls : Function.update s.calls task none = s.calls :=
    Function.update_eq_self_iff.mpr hidle.symm
  unfold registering setCall
  simp only [Function.update_idem]
  show LockedRouter.mk demux s.sending (Function.update s.calls task none) = _
  rw [hcalls]

theorem probe_of_get_none {task left : Nat} {port : UInt16}
    {router : PacketRouter} {call : RouterCall} (hidle : s.calls task = none)
    (hget : router.get port = none) :
    (s.registering task router call).probe task port left =
      { s with demux :=
          { s.demux with
            router := { router with routes :=
              { port := port, tx := s.demux.channels.length } ::
                router.routes }
            channels := s.demux.channels ++ [{ port := port }] } } := by
  have hnone : (s.registering task router call).demux.router.get port = none :=
    hget
  unfold probe
  rw [hnone]
  exact registering_setCall_none hidle _

theorem nextProbe_registering {task left : Nat} {router : PacketRouter}
    {call : RouterCall} :
    (s.registering task router call).nextProbe task left =
      (s.setRouter router).nextProbe task left := by
  unfold registering nextProbe setCall setRouter
  simp only [Function.update_idem]

theorem probe_of_get {task : Nat} {port : UInt16} {router : PacketRouter}
    {call : RouterCall} {entry : PacketEntry} (hidle : s.calls task = none)
    (hget : router.get port = some entry) :
    (s.registering task router call).probe task port 0 =
        { s with demux := { s.demux with router := router } } ∧
      forall left, (s.registering task router call).probe task port (left + 1) =
        (s.setRouter router).nextProbe task left := by
  have hsome : (s.registering task router call).demux.router.get port =
      some entry := hget
  constructor
  · unfold probe
    rw [hsome]
    exact registering_setCall_none hidle _
  · intro left
    unfold probe
    rw [hsome]
    exact nextProbe_registering

def registered (demux : Demux) : PacketRouter × Option UInt16 -> Demux
  | (router, some port) =>
      { demux with
        router := router
        channels := demux.channels ++ [{ port := port }] }
  | (router, none) => { demux with router := router }

theorem registered_probe (demux : Demux) :
    registered demux (PacketRouter.probe demux.channels.length
        PacketRouter.maxSourcePortProbes
        (demux.router.cleanupDead demux.alive)) = demux.register := by
  unfold Demux.register
  cases PacketRouter.probe demux.channels.length
      PacketRouter.maxSourcePortProbes
      (demux.router.cleanupDead demux.alive) with
  | mk router result =>
      cases result with
      | none => rfl
      | some port => rfl

theorem run_nextProbe {task : Nat} (hsending : s.sending = none) (left : Nat)
    (router : PacketRouter) (rest : List Action) :
    Machine.run (step map) ((s.setRouter router).nextProbe task left)
        (.advance task :: rest) =
      Machine.run (step map) (probe (s.registering task
        { router with nextSourcePort := router.nextSourcePort + 1 }
        (.probing (if router.nextSourcePort = 0 then 1
          else router.nextSourcePort) left)) task
        (if router.nextSourcePort = 0 then 1 else router.nextSourcePort)
        left) rest :=
  Machine.run_cons_of_step (advance_probing hsending) rest

theorem run_probing {task : Nat} (hidle : s.calls task = none)
    (hsending : s.sending = none) (left : Nat) (router : PacketRouter) :
    exists n, Machine.run (step map)
        ((s.setRouter router).nextProbe task left)
        (List.replicate n (.advance task)) =
      some { s with
        demux := registered s.demux
          (PacketRouter.probe s.demux.channels.length (left + 1) router) } := by
  induction left generalizing router with
  | zero =>
      refine ⟨1, (run_nextProbe hsending 0 router []).trans ?_⟩
      unfold PacketRouter.probe
      cases hget : PacketRouter.get
          { router with nextSourcePort := router.nextSourcePort + 1 }
          (if router.nextSourcePort = 0 then 1
            else router.nextSourcePort) with
      | none =>
          rw [probe_of_get_none hidle hget]
          simp only [hget]
          rfl
      | some entry =>
          rw [(probe_of_get hidle hget).left]
          simp only [hget]
          rfl
  | succ left ih =>
      unfold PacketRouter.probe
      cases hget : PacketRouter.get
          { router with nextSourcePort := router.nextSourcePort + 1 }
          (if router.nextSourcePort = 0 then 1
            else router.nextSourcePort) with
      | none =>
          refine ⟨1, (run_nextProbe hsending (left + 1) router []).trans ?_⟩
          rw [probe_of_get_none hidle hget]
          simp only [hget]
          rfl
      | some entry =>
          rcases ih { router with nextSourcePort := router.nextSourcePort + 1 }
            with ⟨n, hn⟩
          refine ⟨n + 1, (run_nextProbe hsending (left + 1) router _).trans ?_⟩
          rw [(probe_of_get hidle hget).right left]
          simp only [hget]
          exact hn

theorem run_register {task : Nat} (hidle : s.calls task = none)
    (hsending : s.sending = none) :
    exists n, Machine.run (step map) s
        (.register task :: List.replicate n (.advance task)) =
      some { s with demux := s.demux.register } := by
  have hbegin : step map s (.register task) =
      some (s.registering task s.demux.router (.cleaning map.all)) := by
    show (match s.calls task with
      | none => some _
      | some _ => none) = _
    rw [hidle]
    rfl
  have hclean : Machine.run (step map)
      (s.registering task s.demux.router (.cleaning map.all))
      (List.replicate map.all.length (.advance task)) =
        some (s.registering task (s.demux.router.cleanupDead s.demux.alive)
          (.cleaning [])) := by
    refine (run_cleaning hsending map.all s.demux.router.routes).trans ?_
    rw [map.foldl_filter_all PacketEntry.port]
    rfl
  have hprobes : exists n, Machine.run (step map)
      ((s.setRouter (s.demux.router.cleanupDead s.demux.alive)).nextProbe task
        (PacketRouter.maxSourcePortProbes - 1))
      (List.replicate n (.advance task)) =
        some { s with demux := s.demux.register } := by
    rw [← registered_probe]
    exact run_probing hidle hsending _ _
  rcases hprobes with ⟨n, hprobe⟩
  have hturn : step map (s.registering task
      (s.demux.router.cleanupDead s.demux.alive) (.cleaning []))
      (.advance task) =
        some ((s.setRouter (s.demux.router.cleanupDead
          s.demux.alive)).nextProbe task
            (PacketRouter.maxSourcePortProbes - 1)) := by
    show advance _ _ _ = _
    unfold advance
    rw [calls_registering]
    exact congrArg some nextProbe_registering
  refine ⟨map.all.length + (n + 1), ?_⟩
  rw [Machine.run_cons_of_step hbegin, List.replicate_add]
  refine (Machine.run_append_of_run hclean _).trans ?_
  exact (Machine.run_cons_of_step hturn _).trans hprobe

end LockedRouter

end Device
end Rusbmux
