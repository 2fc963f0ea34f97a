import Rusbmux.Device.Shutdown

/-!
# Which RSTs of a shutdown reach the device

The writer channel is a queue between the call of `shutdown` and the writer
task, so until the task ends every packet put on the channel has been handed to
the endpoint, is being written, or waits.  The end of the task drops the packets
of the last two kinds, and nothing in `shutdown` waits for them.
-/

namespace Rusbmux
namespace Device
namespace Shutdown

open Foundation
open Rusbmux.Parser

def fromCloseAll (queued : List QueuedPacket) : List QueuedPacket :=
  queued.filter fun q => q.fromCloseAll

/--
Once the writer task has ended, every RST that `close_all` put on the channel
has been handed to the endpoint writer, in order and once.
-/
def RstsHanded (s : Shutdown) : Prop :=
  s.writer = .ended -> fromCloseAll s.handed = fromCloseAll s.enqueued

def unhanded (s : Shutdown) : List QueuedPacket :=
  s.writing.toList ++ s.channel

def Drained (s : Shutdown) : Prop :=
  fromCloseAll s.unhanded = []

/--
The writer task ends only while it is not writing an RST of `close_all` and
none waits on the channel.
-/
def EndsDrained (s : Shutdown) : Action -> Prop
  | .writer .pollTokenFirst | .writer .pollToken =>
      s.cancelled = true -> s.Drained
  | .writer .abort => s.Drained
  | .writer .pollLoopFirst | .writer .takePacket | .writer .packetWritten
  | .writer .loopPending | .cancel | .takeAllConns _ | .sendRst _ _
  | .closeAllReturns | .dropLoops | .send _ => True

/-!
## What a step does to the packets
-/

/--
What a step under a guard can do to the packets and to the life of the writer
task.  Only the end of the task can break the guard.
-/
inductive Traffic (s t : Shutdown) (guard : Prop) : Prop where
  | keeps (hguard : guard) (hwriter : t.writer = .ended <-> s.writer = .ended)
      (hhanded : t.handed = s.handed) (hunhanded : t.unhanded = s.unhanded)
      (henqueued : t.enqueued = s.enqueued)
  | enqueues (hguard : guard) (queued : QueuedPacket)
      (hwriter : s.writer ≠ .ended) (hwriter' : t.writer ≠ .ended)
      (hhanded : t.handed = s.handed)
      (hunhanded : t.unhanded = s.unhanded ++ [queued])
      (henqueued : t.enqueued = s.enqueued ++ [queued])
  | hands (hguard : guard) (hwriter : s.writer ≠ .ended)
      (hwriter' : t.writer ≠ .ended)
      (hflow : t.handed ++ t.unhanded = s.handed ++ s.unhanded)
      (henqueued : t.enqueued = s.enqueued)
  | ends (hwriter : s.writer ≠ .ended) (hend : t = s.endTask)
      (hguard : guard <-> s.Drained)

namespace Traffic

variable {s t : Shutdown}

theorem of_enqueue {queued : QueuedPacket}
    (h : s.enqueue queued = some t) : Traffic s t True := by
  rcases enqueue_eq_some h with ⟨hwriter, rfl⟩
  refine .enqueues trivial queued hwriter hwriter rfl ?_ rfl
  exact (List.append_assoc _ _ _).symm

theorem of_caller {call : ShutdownCall} {cancelled dropped aborted : Bool} :
    Traffic s { s with
      call := call
      cancelled := cancelled
      dropped := dropped
      aborted := aborted } True :=
  .keeps trivial Iff.rfl rfl rfl rfl

theorem of_writer {writer : WriterTask} {guard : Prop} (hguard : guard)
    (hwriter : s.writer ≠ .ended) (hwriter' : writer ≠ .ended) :
    Traffic s { s with writer := writer } guard := by
  refine .keeps hguard ⟨fun h => absurd h hwriter', fun h => absurd h hwriter⟩
    rfl rfl rfl

end Traffic

theorem takeAllConns_traffic {s t : Shutdown} {conns : List UsbDeviceConn}
    (hstep : s.takeAllConns conns = some t) : Traffic s t True := by
  rcases takeAllConns_eq_some hstep with ⟨_, rfl⟩
  exact Traffic.of_caller

theorem sendRst_traffic {s t : Shutdown} {sentBytes receivedBytes : UInt32}
    (hstep : s.sendRst sentBytes receivedBytes = some t) :
    Traffic s t True := by
  rcases sendRst_cases hstep with ⟨_, _, _, _, rfl | ⟨queued, hqueued⟩⟩
  · exact Traffic.of_caller
  · rcases enqueue_eq_some hqueued with ⟨hwriter, rfl⟩
    refine .enqueues trivial queued hwriter hwriter rfl ?_ rfl
    exact (List.append_assoc _ _ _).symm

theorem closeAllReturns_traffic {s t : Shutdown}
    (hstep : s.closeAllReturns = some t) : Traffic s t True := by
  rcases closeAllReturns_cases hstep with ⟨err, rfl⟩ | rfl
  · exact Traffic.of_caller
  · exact Traffic.of_caller

theorem takePacket_traffic {s t : Shutdown}
    (hstep : s.takePacket = some t) : Traffic s t True := by
  rcases takePacket_eq_some hstep with
    ⟨tokenPolled, queued, rest, hwriter, hwriting, hchannel, rfl⟩
  have hactive : s.writer ≠ .ended := by
    rw [hwriter]
    exact nofun
  refine .hands trivial hactive hactive ?_ rfl
  unfold unhanded
  rw [hwriting, hchannel]
  rfl

theorem packetWritten_traffic {s t : Shutdown}
    (hstep : s.packetWritten = some t) : Traffic s t True := by
  rcases packetWritten_eq_some hstep with
    ⟨tokenPolled, queued, hwriter, hwriting, rfl⟩
  have hactive : s.writer ≠ .ended := by
    rw [hwriter]
    exact nofun
  refine .hands trivial hactive hactive ?_ rfl
  unfold unhanded
  rw [hwriting]
  exact List.append_assoc _ _ _

theorem loopPending_traffic {s t : Shutdown}
    (hstep : s.loopPending = some t) : Traffic s t True := by
  rcases loopPending_eq_some hstep with ⟨tokenPolled, hwriter, rfl⟩
  apply Traffic.of_writer trivial
  · rw [hwriter]
    exact nofun
  · cases tokenPolled with
    | false => exact nofun
    | true => exact nofun

theorem pollLoopFirst_traffic {s t : Shutdown}
    (hstep : s.pollLoopFirst = some t) : Traffic s t True := by
  rcases Machine.of_enabled_if hstep with ⟨⟨hwriter, _⟩, hsome⟩
  cases hsome
  apply Traffic.of_writer trivial
  · rw [hwriter]
    exact nofun
  · exact nofun

theorem tokenPolled_traffic {s t : Shutdown} {writer : WriterTask}
    (hactive : s.writer ≠ .ended) (hactive' : writer ≠ .ended)
    (hstep : (if s.cancelled = true then some s.endTask
      else some { s with writer := writer }) = some t) :
    Traffic s t (s.cancelled = true -> s.Drained) := by
  by_cases hcancelled : s.cancelled = true
  · rw [if_pos hcancelled] at hstep
    cases hstep
    exact .ends hactive rfl ⟨fun h => h hcancelled, fun h _ => h⟩
  · rw [if_neg hcancelled] at hstep
    cases hstep
    exact Traffic.of_writer (fun h => absurd h hcancelled) hactive hactive'

theorem writerStep_traffic {s t : Shutdown} {a : WriterAction}
    (hstep : s.writerStep a = some t) :
    Traffic s t (s.EndsDrained (.writer a)) := by
  cases a with
  | pollLoopFirst => exact pollLoopFirst_traffic hstep
  | pollTokenFirst =>
      rcases Machine.of_enabled_if hstep with ⟨⟨hwriter, _⟩, hpoll⟩
      refine tokenPolled_traffic ?_ (by exact nofun) hpoll
      rw [hwriter]
      exact nofun
  | takePacket => exact takePacket_traffic hstep
  | packetWritten => exact packetWritten_traffic hstep
  | loopPending => exact loopPending_traffic hstep
  | pollToken =>
      rcases Machine.of_enabled_if hstep with ⟨hwriter, hpoll⟩
      refine tokenPolled_traffic ?_ (by exact nofun) hpoll
      rw [hwriter]
      exact nofun
  | abort =>
      rcases Machine.of_enabled_if hstep with ⟨⟨hwriter, _⟩, hsome⟩
      cases hsome
      refine .ends ?_ rfl Iff.rfl
      rw [hwriter]
      exact nofun

theorem step_traffic {s t : Shutdown} {a : Action}
    (hstep : step s a = some t) : Traffic s t (s.EndsDrained a) := by
  cases a with
  | cancel =>
      cases cancel_eq_some hstep
      exact Traffic.of_caller
  | takeAllConns conns => exact takeAllConns_traffic hstep
  | sendRst sentBytes receivedBytes => exact sendRst_traffic hstep
  | closeAllReturns => exact closeAllReturns_traffic hstep
  | dropLoops =>
      cases dropLoops_eq_some hstep
      exact Traffic.of_caller
  | send packet => exact Traffic.of_enqueue hstep
  | writer a => exact writerStep_traffic hstep

/-!
## The queue
-/

structure Invariant (s : Shutdown) : Prop where
  flow : s.writer ≠ .ended -> s.enqueued = s.handed ++ s.unhanded
  handed : s.RstsHanded

theorem fromCloseAll_append (front back : List QueuedPacket) :
    fromCloseAll (front ++ back) = fromCloseAll front ++ fromCloseAll back :=
  List.filter_append front back

theorem rstsHanded_endTask_iff {s : Shutdown}
    (hflow : s.enqueued = s.handed ++ s.unhanded) :
    s.endTask.RstsHanded <-> s.Drained := by
  have hlost : fromCloseAll s.enqueued =
      fromCloseAll s.handed ++ fromCloseAll s.unhanded := by
    rw [hflow, fromCloseAll_append]
  constructor
  · intro h
    have heq : fromCloseAll s.handed = fromCloseAll s.enqueued := h rfl
    rw [hlost] at heq
    exact List.self_eq_append_right.mp heq
  · intro hdrained _
    change fromCloseAll s.handed = fromCloseAll s.enqueued
    unfold Drained at hdrained
    rw [hlost, hdrained, List.append_nil]

theorem flow_step {s t : Shutdown} {guard : Prop}
    (hflow : s.writer ≠ .ended -> s.enqueued = s.handed ++ s.unhanded)
    (h : Traffic s t guard) :
    t.writer ≠ .ended -> t.enqueued = t.handed ++ t.unhanded := by
  intro hactive
  cases h with
  | keeps _ hwriter hhanded hunhanded henqueued =>
      rw [henqueued, hhanded, hunhanded]
      exact hflow fun hended => hactive (hwriter.mpr hended)
  | enqueues _ queued hwriter _ hhanded hunhanded henqueued =>
      rw [henqueued, hhanded, hunhanded, hflow hwriter, List.append_assoc]
  | hands _ hwriter _ hkept henqueued =>
      rw [henqueued, hkept]
      exact hflow hwriter
  | ends _ hend _ =>
      subst hend
      exact absurd rfl hactive

theorem invariant_step {s t : Shutdown} {a : Action} (h : Invariant s)
    (hstep : step s a = some t) (hguard : s.EndsDrained a) : Invariant t where
  flow := flow_step h.flow (step_traffic hstep)
  handed := by
    intro hended
    cases step_traffic hstep with
    | keeps _ hwriter hhanded _ henqueued =>
        rw [hhanded, henqueued]
        exact h.handed (hwriter.mp hended)
    | enqueues _ queued _ hwriter' => exact absurd hended hwriter'
    | hands _ _ hwriter' => exact absurd hended hwriter'
    | ends hwriter hend hiff =>
        subst hend
        exact (rstsHanded_endTask_iff (h.flow hwriter)).mpr (hiff.mp hguard) rfl

theorem not_rstsHanded_of_undrained {s t : Shutdown} {a : Action}
    (h : Invariant s) (hstep : step s a = some t) (hguard : ¬ s.EndsDrained a) :
    ¬ t.RstsHanded := by
  intro hhanded
  apply hguard
  cases step_traffic hstep with
  | keeps hholds => exact hholds
  | enqueues hholds => exact hholds
  | hands hholds => exact hholds
  | ends hwriter hend hiff =>
      subst hend
      exact hiff.mpr ((rstsHanded_endTask_iff (h.flow hwriter)).mp hhanded)

theorem Invariant.init (conns : List UsbDeviceConn) :
    Invariant { conns := conns } where
  flow := fun _ => rfl
  handed := fun _ => rfl

theorem rstsHanded_throughout_iff (conns : List UsbDeviceConn)
    (actions : List Action) :
    Machine.Throughout step RstsHanded { conns := conns } actions <->
      Machine.Guarded step EndsDrained { conns := conns } actions :=
  Machine.throughout_iff_guarded (J := Invariant) (fun _ h => h.handed)
    (fun _ _ _ => invariant_step) (fun _ _ _ => not_rstsHanded_of_undrained)
    (Invariant.init conns) actions

/-!
## Every schedule
-/

def toClose (s : Shutdown) : List UsbDeviceConn :=
  match s.call with
  | .closing rest _ => rest
  | _ => []

structure NothingToClose (s : Shutdown) : Prop where
  conns : s.conns = []
  toClose : s.toClose = []
  enqueued : fromCloseAll s.enqueued = []
  flow : s.writer ≠ .ended -> s.enqueued = s.handed ++ s.unhanded

theorem NothingToClose.init : NothingToClose { conns := [] } where
  conns := rfl
  toClose := rfl
  enqueued := rfl
  flow := fun _ => rfl

theorem NothingToClose.drained {s : Shutdown} (h : NothingToClose s)
    (hwriter : s.writer ≠ .ended) : s.Drained := by
  have hall := h.enqueued
  rw [h.flow hwriter, fromCloseAll_append] at hall
  exact (List.append_eq_nil_iff.mp hall).right

theorem NothingToClose.endsDrained {s t : Shutdown} {a : Action}
    (h : NothingToClose s) (hstep : step s a = some t) : s.EndsDrained a := by
  cases step_traffic hstep with
  | keeps hholds => exact hholds
  | enqueues hholds => exact hholds
  | hands hholds => exact hholds
  | ends hwriter _ hiff => exact hiff.mpr (h.drained hwriter)

structure SameCaller (s t : Shutdown) : Prop where
  conns : t.conns = s.conns
  call : t.call = s.call
  enqueued : t.enqueued = s.enqueued

theorem writerStep_same {s t : Shutdown} {a : WriterAction}
    (hstep : s.writerStep a = some t) : SameCaller s t := by
  cases a with
  | pollLoopFirst =>
      cases (Machine.of_enabled_if hstep).right
      exact ⟨rfl, rfl, rfl⟩
  | pollTokenFirst =>
      have hpoll := (Machine.of_enabled_if hstep).right
      split at hpoll
      · cases hpoll
        exact ⟨rfl, rfl, rfl⟩
      · cases hpoll
        exact ⟨rfl, rfl, rfl⟩
  | takePacket =>
      rcases takePacket_eq_some hstep with ⟨_, _, _, _, _, _, rfl⟩
      exact ⟨rfl, rfl, rfl⟩
  | packetWritten =>
      rcases packetWritten_eq_some hstep with ⟨_, _, _, _, rfl⟩
      exact ⟨rfl, rfl, rfl⟩
  | loopPending =>
      rcases loopPending_eq_some hstep with ⟨_, _, rfl⟩
      exact ⟨rfl, rfl, rfl⟩
  | pollToken =>
      have hpoll := (Machine.of_enabled_if hstep).right
      split at hpoll
      · cases hpoll
        exact ⟨rfl, rfl, rfl⟩
      · cases hpoll
        exact ⟨rfl, rfl, rfl⟩
  | abort =>
      cases (Machine.of_enabled_if hstep).right
      exact ⟨rfl, rfl, rfl⟩

theorem nothingToClose_step {s t : Shutdown} {a : Action}
    (h : NothingToClose s) (hstep : step s a = some t) : NothingToClose t := by
  have hflow := flow_step h.flow (step_traffic hstep)
  cases a with
  | cancel =>
      cases cancel_eq_some hstep
      exact ⟨h.conns, rfl, h.enqueued, hflow⟩
  | takeAllConns conns =>
      rcases takeAllConns_eq_some hstep with ⟨hconns, rfl⟩
      rw [h.conns] at hconns
      cases List.subperm_nil.mp hconns
      exact ⟨h.conns, rfl, h.enqueued, hflow⟩
  | sendRst sentBytes receivedBytes =>
      rcases sendRst_cases hstep with ⟨conn, rest, firstErr, hcall, _⟩
      have hnone := h.toClose
      unfold toClose at hnone
      rw [hcall] at hnone
      cases hnone
  | closeAllReturns =>
      rcases closeAllReturns_cases hstep with ⟨err, rfl⟩ | rfl
      · exact ⟨h.conns, rfl, h.enqueued, hflow⟩
      · exact ⟨h.conns, rfl, h.enqueued, hflow⟩
  | dropLoops =>
      cases dropLoops_eq_some hstep
      exact ⟨h.conns, rfl, h.enqueued, hflow⟩
  | send packet =>
      rcases enqueue_eq_some hstep with ⟨_, rfl⟩
      refine ⟨h.conns, h.toClose, ?_, hflow⟩
      rw [fromCloseAll_append, h.enqueued]
      rfl
  | writer a =>
      have hsame := writerStep_same hstep
      constructor
      · exact hsame.conns.trans h.conns
      · rw [toClose, hsame.call]
        exact h.toClose
      · rw [hsame.enqueued]
        exact h.enqueued
      · exact hflow

theorem rstsHanded_of_noConns (actions : List Action) :
    Machine.Throughout step RstsHanded { conns := [] } actions := by
  apply (rstsHanded_throughout_iff [] actions).mpr
  intro pre a t u _ hrun hstep
  have hnothing : NothingToClose t :=
    Machine.run_invariant (fun _ _ _ => nothingToClose_step)
      NothingToClose.init hrun
  exact hnothing.endsDrained hstep

def tokenSeenFirst (conns : List UsbDeviceConn) : List Action :=
  [.cancel, .takeAllConns conns, .sendRst 1 1, .writer .pollTokenFirst]

theorem not_rstsHanded_tokenSeenFirst {conns : List UsbDeviceConn}
    (hconns : conns ≠ []) :
    ¬ Machine.Throughout step RstsHanded { conns := conns }
      (tokenSeenFirst conns) := by
  intro h
  cases conns with
  | nil => exact hconns rfl
  | cons conn rest =>
      let taken : Shutdown :=
        { conns := conn :: rest
          call := .closing (conn :: rest) none
          cancelled := true }
      have htake : step { taken with call := .cancelled }
          (.takeAllConns (conn :: rest)) = some taken :=
        if_pos (List.Subperm.refl _)
      have hlast : Machine.run step { conns := conn :: rest }
          (tokenSeenFirst (conn :: rest)) =
            Machine.run step taken [.sendRst 1 1, .writer .pollTokenFirst] :=
        Machine.run_cons_of_step htake _
      have hhanded := h.last (hlast.trans rfl) rfl
      cases hhanded

/--
The RSTs of a shutdown reach the endpoint in a run, exactly if the writer task
ends only while none of them is queued or being written.  Nothing in the call
makes sure of that: they do in all runs only if there are none.
-/
theorem rstsHanded_iff (conns : List UsbDeviceConn) :
    (forall actions,
      Machine.Throughout step RstsHanded { conns := conns } actions <->
        Machine.Guarded step EndsDrained { conns := conns } actions) ∧
      ((forall actions,
        Machine.Throughout step RstsHanded { conns := conns } actions) <->
          conns = []) := by
  constructor
  · exact rstsHanded_throughout_iff conns
  · constructor
    · intro h
      by_contra hconns
      exact not_rstsHanded_tokenSeenFirst hconns (h _)
    · intro hconns actions
      subst hconns
      exact rstsHanded_of_noConns actions

/-- With a single connection open, its RST can stay on the channel. -/
theorem not_rstsHanded_single :
    ¬ Machine.Throughout step RstsHanded { conns := [.opened 62078 1] }
      (tokenSeenFirst [.opened 62078 1]) :=
  not_rstsHanded_tokenSeenFirst (List.cons_ne_nil _ _)

end Shutdown
end Device
end Rusbmux
