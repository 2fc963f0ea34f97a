import Rusbmux.Foundation.Machine
import Rusbmux.Provider.Stream

/-!
# Closing a connection

The operations that send the RST of one connection: `close` and `close_blocking`
of the connection and its drop, `poll_shutdown` of a stream over it, and
`cleanup_conn`, `close_all`, `close_all_blocking` and `shutdown` of its device.
Three records say that a connection is closed: its flag, its entry in the router
and the end of its last owner.  An operation that waits for room on the writer
channel goes on when the others have done something; every other poll is one
step.
-/

namespace Rusbmux
namespace Device

open Foundation
open Rusbmux.Parser

structure WaitingRst where
  packet : UsbDevicePacket
  /-- It is followed by `set_dropped`. -/
  setsDropped : Bool
deriving DecidableEq, Repr

structure Closing where
  conn : UsbDeviceConn
  routed : Bool
  alive : Bool := true
  waiting : List WaitingRst := []
  enqueued : List UsbDevicePacket := []

namespace Closing

inductive Action where
  | transfer (sentBytes receivedBytes : UInt32)
  | unroute
  | close
  | closeBlocking (answer : SendAnswer)
  | pollShutdown (flag : SendAnswer)
  | cleanupConn
  | closeAll
  | closeAllBlocking (answer : SendAnswer)
  | shutdown
  | dropLast (answer : SendAnswer)
  | sent (i : Nat)
  | givenUp (i : Nat)

def sendRst (s : Closing) (setsDropped : Bool) : Closing :=
  { s with waiting := s.waiting ++ [⟨s.conn.buildFlag .rst, setsDropped⟩] }

def sendRstBlocking (s : Closing) : SendAnswer -> Closing × Bool
  | .sent => ({ s with enqueued := s.enqueued ++ [s.conn.buildFlag .rst] }, true)
  | .full => (s, false)
  | .disconnected => (s, false)

def setDropped (s : Closing) : Closing :=
  { s with conn := s.conn.setDropped }

def close (s : Closing) : Closing :=
  s.sendRst true

def closeBlocking (s : Closing) (answer : SendAnswer) : Closing :=
  match s.sendRstBlocking answer with
  | (s, true) => s.setDropped
  | (s, false) => s

def pollShutdown (s : Closing) : SendAnswer -> Closing
  | .sent =>
      if s.conn.dropped then s
      else
        { s with
          enqueued := s.enqueued ++ [s.conn.buildFlag .rst]
          conn := s.conn.updateSendableBytes.setDropped }
  | .full => s
  | .disconnected => s

def cleanupConn (s : Closing) : Closing :=
  if s.routed && s.alive && !s.conn.dropped then { s with routed := false }.close
  else { s with routed := false }

def closeAll (s : Closing) : Closing :=
  if s.routed && s.alive then { s with routed := false }.sendRst false
  else { s with routed := false }

def closeAllBlocking (s : Closing) (answer : SendAnswer) : Closing :=
  if s.routed && s.alive then
    ({ s with routed := false }.sendRstBlocking answer).fst
  else
    { s with routed := false }

def drop (s : Closing) (answer : SendAnswer) : Closing :=
  if s.conn.dropped then { s with alive := false }
  else { s with alive := false }.closeBlocking answer

/-- A waiting send is over. -/
def finish (s : Closing) (rst : WaitingRst) : Closing :=
  let s := { s with enqueued := s.enqueued ++ [rst.packet] }
  if rst.setsDropped then s.setDropped else s

def unshared (s : Closing) : Bool :=
  s.alive && s.waiting.isEmpty

def step : Machine Closing Action := fun s a =>
  match a with
  | .transfer sentBytes receivedBytes =>
      some { s with conn :=
        { s.conn with sentBytes := sentBytes, receivedBytes := receivedBytes } }
  | .unroute => some { s with routed := false }
  | .close => if s.alive then some s.close else none
  | .closeBlocking answer =>
      if s.unshared then some (s.closeBlocking answer) else none
  | .pollShutdown flag => if s.alive then some (s.pollShutdown flag) else none
  | .cleanupConn => some s.cleanupConn
  | .closeAll => some s.closeAll
  | .closeAllBlocking answer => some (s.closeAllBlocking answer)
  | .shutdown => some s.closeAll
  | .dropLast answer => if s.unshared then some (s.drop answer) else none
  | .sent i =>
      s.waiting[i]?.map fun rst =>
        { s with waiting := s.waiting.eraseIdx i }.finish rst
  | .givenUp i =>
      s.waiting[i]?.map fun _ => { s with waiting := s.waiting.eraseIdx i }

def start (conn : UsbDeviceConn) (routed : Bool) : Closing where
  conn := conn
  routed := routed

theorem pollShutdown_stream (s : Closing) (stream : Provider.RusbmuxStream)
    (hconn : stream.conn = s.conn) (flag : SendAnswer) :
    (stream.pollShutdown flag).fst.conn = (s.pollShutdown flag).conn ∧
      exists rsts, (s.pollShutdown flag).enqueued = s.enqueued ++ rsts ∧
        (stream.pollShutdown flag).fst.writeSink = stream.writeSink ++ rsts := by
  unfold Provider.RusbmuxStream.pollShutdown pollShutdown
  rw [hconn]
  have hnothing : s.enqueued = s.enqueued ++ [] ∧
      stream.writeSink = stream.writeSink ++ [] :=
    ⟨(List.append_nil _).symm, (List.append_nil _).symm⟩
  cases flag with
  | sent =>
      split
      · exact ⟨hconn, [], hnothing⟩
      · rw [← hconn]
        exact ⟨rfl, [_], rfl, rfl⟩
  | full =>
      split
      · exact ⟨hconn, [], hnothing⟩
      · exact ⟨hconn, [], hnothing⟩
  | disconnected =>
      split
      · exact ⟨hconn, [], hnothing⟩
      · exact ⟨hconn, [], hnothing⟩

/-!
## What is sent
-/

def sendsRst (s : Closing) : Action -> Bool
  | .transfer _ _ => false
  | .unroute => false
  | .close => true
  | .closeBlocking answer => answer = .sent
  | .pollShutdown flag => flag = .sent && !s.conn.dropped
  | .cleanupConn => s.routed && s.alive && !s.conn.dropped
  | .closeAll => s.routed && s.alive
  | .closeAllBlocking answer => answer = .sent && (s.routed && s.alive)
  | .shutdown => s.routed && s.alive
  | .dropLast answer => answer = .sent && !s.conn.dropped
  | .sent _ => false
  | .givenUp _ => false

def rsts (s : Closing) : Nat :=
  s.enqueued.length + s.waiting.length

def Adds (s : Closing) (sends : Bool) (t : Closing) : Prop :=
  if sends = true then t.rsts = s.rsts + 1 else t.rsts <= s.rsts

theorem Adds.none {s t : Closing} (h : t.rsts <= s.rsts) : s.Adds false t :=
  h

theorem sendRst_rsts (s : Closing) (setsDropped : Bool) :
    (s.sendRst setsDropped).rsts = s.rsts + 1 := by
  unfold rsts
  show _ + (s.waiting ++ [_]).length = _
  rw [List.length_append]
  rfl

theorem sendRstBlocking_adds (s : Closing) (answer : SendAnswer) :
    s.Adds (answer = .sent) (s.sendRstBlocking answer).fst := by
  cases answer with
  | sent =>
      show (s.enqueued ++ [_]).length + _ = _
      rw [List.length_append, Nat.add_right_comm]
      rfl
  | full => exact Nat.le_refl _
  | disconnected => exact Nat.le_refl _

theorem closeBlocking_adds (s : Closing) (answer : SendAnswer) :
    s.Adds (answer = .sent) (s.closeBlocking answer) := by
  have hsends := s.sendRstBlocking_adds answer
  cases answer with
  | sent => exact hsends
  | full => exact hsends
  | disconnected => exact hsends

theorem pollShutdown_adds (s : Closing) (flag : SendAnswer) :
    s.Adds (flag = .sent && !s.conn.dropped) (s.pollShutdown flag) := by
  cases flag with
  | sent =>
      unfold pollShutdown
      cases s.conn.dropped with
      | true => exact Nat.le_refl _
      | false =>
          show (s.enqueued ++ [_]).length + _ = _
          rw [List.length_append, Nat.add_right_comm]
          rfl
  | full => exact Nat.le_refl _
  | disconnected => exact Nat.le_refl _

theorem cleanupConn_adds (s : Closing) :
    s.Adds (s.routed && s.alive && !s.conn.dropped) s.cleanupConn := by
  unfold cleanupConn
  cases s.routed && s.alive && !s.conn.dropped with
  | true => exact sendRst_rsts _ true
  | false => exact Nat.le_refl _

theorem closeAll_adds (s : Closing) :
    s.Adds (s.routed && s.alive) s.closeAll := by
  unfold closeAll
  cases s.routed && s.alive with
  | true => exact sendRst_rsts _ false
  | false => exact Nat.le_refl _

theorem closeAllBlocking_adds (s : Closing) (answer : SendAnswer) :
    s.Adds (answer = .sent && (s.routed && s.alive))
      (s.closeAllBlocking answer) := by
  unfold closeAllBlocking
  cases s.routed && s.alive with
  | true =>
      rw [Bool.and_true]
      exact sendRstBlocking_adds _ answer
  | false =>
      rw [Bool.and_false]
      exact Nat.le_refl _

theorem drop_adds (s : Closing) (answer : SendAnswer) :
    s.Adds (answer = .sent && !s.conn.dropped) (s.drop answer) := by
  unfold drop
  cases s.conn.dropped with
  | true =>
      rw [Bool.not_true, Bool.and_false]
      exact Nat.le_refl _
  | false =>
      rw [Bool.not_false, Bool.and_true]
      exact closeBlocking_adds _ answer

theorem finish_rsts (s : Closing) (rst : WaitingRst) :
    (s.finish rst).rsts = s.rsts + 1 := by
  unfold finish
  have happend : { s with enqueued := s.enqueued ++ [rst.packet] }.rsts =
      s.rsts + 1 := by
    show (s.enqueued ++ [_]).length + _ = _
    rw [List.length_append, Nat.add_right_comm]
    rfl
  cases rst.setsDropped with
  | true => exact happend
  | false => exact happend

theorem finish_waiting (s : Closing) (rst : WaitingRst) :
    (s.finish rst).waiting = s.waiting := by
  unfold finish
  cases rst.setsDropped with
  | true => rfl
  | false => rfl

theorem eraseIdx_rsts (s : Closing) {i : Nat} {rst : WaitingRst}
    (hi : s.waiting[i]? = some rst) :
    { s with waiting := s.waiting.eraseIdx i }.rsts + 1 = s.rsts := by
  rcases List.getElem?_eq_some_iff.mp hi with ⟨hlt, _⟩
  show s.enqueued.length + (s.waiting.eraseIdx i).length + 1 = s.rsts
  rw [Nat.add_assoc, List.length_eraseIdx_add_one hlt]
  rfl

theorem step_adds {s t : Closing} {a : Action} (hstep : step s a = some t) :
    s.Adds (s.sendsRst a) t := by
  cases a with
  | transfer sentBytes receivedBytes =>
      cases hstep
      exact Nat.le_refl _
  | unroute =>
      cases hstep
      exact Nat.le_refl _
  | close =>
      rcases Machine.of_enabled_if hstep with ⟨_, hnext⟩
      cases hnext
      exact sendRst_rsts s true
  | closeBlocking answer =>
      rcases Machine.of_enabled_if hstep with ⟨_, hnext⟩
      cases hnext
      exact s.closeBlocking_adds answer
  | pollShutdown flag =>
      rcases Machine.of_enabled_if hstep with ⟨_, hnext⟩
      cases hnext
      exact s.pollShutdown_adds flag
  | cleanupConn =>
      cases hstep
      exact s.cleanupConn_adds
  | closeAll =>
      cases hstep
      exact s.closeAll_adds
  | closeAllBlocking answer =>
      cases hstep
      exact s.closeAllBlocking_adds answer
  | shutdown =>
      cases hstep
      exact s.closeAll_adds
  | dropLast answer =>
      rcases Machine.of_enabled_if hstep with ⟨_, hnext⟩
      cases hnext
      exact s.drop_adds answer
  | sent i =>
      rcases Option.map_eq_some_iff.mp hstep with ⟨rst, hi, rfl⟩
      apply Adds.none
      rw [finish_rsts, s.eraseIdx_rsts hi]
  | givenUp i =>
      rcases Option.map_eq_some_iff.mp hstep with ⟨rst, hi, rfl⟩
      apply Adds.none
      rw [← s.eraseIdx_rsts hi]
      exact Nat.le_succ _

/-!
## At most one RST
-/

def AtMostOneRst (s : Closing) : Prop :=
  s.enqueued.length <= 1

def ClosesFirst (s : Closing) (a : Action) : Prop :=
  s.sendsRst a = true -> s.enqueued = [] ∧ s.waiting = []

/-- A waiting RST is sent. -/
def Action.isSent : Action -> Prop
  | .sent _ => True
  | _ => False

theorem rsts_eq_zero (s : Closing) :
    s.rsts = 0 <-> s.enqueued = [] ∧ s.waiting = [] := by
  unfold rsts
  rw [Nat.add_eq_zero_iff, List.length_eq_zero_iff, List.length_eq_zero_iff]

theorem exists_drained (s : Closing) :
    exists later t, (forall a, a ∈ later -> a.isSent) ∧
      Machine.run step s later = some t ∧ t.enqueued.length = s.rsts := by
  induction hwaiting : s.waiting generalizing s with
  | nil =>
      refine ⟨[], s, nofun, rfl, ?_⟩
      unfold rsts
      rw [hwaiting]
      rfl
  | cons rst rest ih =>
      have hfirst : s.waiting[0]? = some rst := by
        rw [hwaiting]
        rfl
      have hstep : step s (.sent 0) =
          some ({ s with waiting := s.waiting.eraseIdx 0 }.finish rst) := by
        show s.waiting[0]?.map _ = _
        rw [hfirst]
        rfl
      have hrest : ({ s with waiting := s.waiting.eraseIdx 0 }.finish
          rst).waiting = rest := by
        rw [finish_waiting, hwaiting]
        rfl
      rcases ih _ hrest with ⟨later, t, hlater, hrun, hall⟩
      refine ⟨.sent 0 :: later, t, ?_, ?_, ?_⟩
      · intro a ha
        rcases List.mem_cons.mp ha with rfl | hmem
        · trivial
        · exact hlater a hmem
      · rw [Machine.run_cons_of_step hstep]
        exact hrun
      · rw [hall, finish_rsts, s.eraseIdx_rsts hfirst]

theorem atMostOneRst_iff_closesFirst (conn : UsbDeviceConn) (routed : Bool)
    (actions : List Action) :
    (forall pre later, pre <+: actions ->
        (forall a, a ∈ later -> a.isSent) ->
        Machine.Throughout step AtMostOneRst (start conn routed)
          (pre ++ later)) <->
      Machine.Guarded step ClosesFirst (start conn routed) actions := by
  apply Machine.throughout_extended_iff_guarded (S := fun _ => True)
    (I := fun s => s.rsts <= 1)
  · intro s a t _ _
    trivial
  · intro s a t hfew _ hstep hfirst
    have hadds := step_adds hstep
    unfold Adds at hadds
    cases hsends : s.sendsRst a with
    | true =>
        rw [if_pos hsends, s.rsts_eq_zero.mpr (hfirst hsends)] at hadds
        exact Nat.le_of_eq hadds
    | false =>
        rw [hsends] at hadds
        exact Nat.le_trans hadds hfew
  · intro s hfew
    exact Nat.le_trans (Nat.le_add_right _ _) hfew
  · intro s a hsent
    cases a with
    | sent i => nofun
    | _ => cases hsent
  · intro s a t _ hstep hnot
    unfold ClosesFirst at hnot
    push Not at hnot
    rcases hnot with ⟨hsends, hothers⟩
    have hadds := step_adds hstep
    unfold Adds at hadds
    rw [if_pos hsends] at hadds
    rcases t.exists_drained with ⟨later, u, hlater, hrun, hall⟩
    refine ⟨later, u, hlater, hrun, ?_⟩
    unfold AtMostOneRst
    rw [hall, hadds]
    intro hone
    have hzero := s.rsts_eq_zero.mp (Nat.le_zero.mp (Nat.le_of_succ_le_succ hone))
    exact hothers hzero.left hzero.right
  · trivial
  · exact Nat.zero_le 1

/-!
## Which operation may follow which
-/

/-- What the operations have done to the connection so far. -/
inductive Stage where
  | unclosed
  /-- An RST waits for room, to be followed by `set_dropped` or not. -/
  | pending (setsDropped : Bool)
  | closed
  | swept
deriving DecidableEq, Repr

namespace Stage

def next (stage : Stage) (s : Closing) (a : Action) : Stage :=
  match stage, a with
  | unclosed, .close => pending true
  | unclosed, .closeBlocking .sent => closed
  | unclosed, .pollShutdown .sent =>
      if s.conn.dropped then unclosed else closed
  | unclosed, .cleanupConn =>
      if s.routed && s.alive && !s.conn.dropped then pending true else unclosed
  | unclosed, .closeAll | unclosed, .shutdown =>
      if s.routed && s.alive then pending false else unclosed
  | unclosed, .closeAllBlocking .sent =>
      if s.routed && s.alive then swept else unclosed
  | unclosed, .dropLast .sent => if s.conn.dropped then unclosed else closed
  | pending setsDropped, .sent _ => if setsDropped then closed else swept
  | pending _, .givenUp _ => unclosed
  | stage, _ => stage

/--
The operations that may be applied at a stage.  `close` and `close_blocking`
never ask whether the connection is closed, the operations of the device only
ask whether the router still has its entry, and the others ask for the flag.
-/
def Admits (stage : Stage) (s : Closing) (a : Action) : Prop :=
  match stage, a with
  | unclosed, _ => True
  | _, .close => False
  | _, .closeBlocking answer => answer ≠ .sent
  | closed, .closeAll | closed, .shutdown => ¬ (s.routed ∧ s.alive)
  | closed, .closeAllBlocking answer => answer = .sent -> ¬ (s.routed ∧ s.alive)
  | swept, .pollShutdown answer | swept, .dropLast answer =>
      answer = .sent -> s.conn.dropped
  | pending _, .pollShutdown answer | pending _, .dropLast answer =>
      answer = .sent -> s.conn.dropped
  | pending _, .cleanupConn => s.routed ∧ s.alive -> s.conn.dropped
  | pending _, .closeAll | pending _, .shutdown => ¬ (s.routed ∧ s.alive)
  | pending _, .closeAllBlocking answer =>
      answer = .sent -> ¬ (s.routed ∧ s.alive)
  | _, _ => True

def Matches : Stage -> Closing -> Prop
  | unclosed, s => s.enqueued = [] ∧ s.waiting = []
  | pending setsDropped, s =>
      s.enqueued = [] ∧ (exists packet, s.waiting = [⟨packet, setsDropped⟩]) ∧
        (setsDropped = false -> s.routed = false)
  | closed, s =>
      s.enqueued.length = 1 ∧ s.waiting = [] ∧ s.conn.dropped = true
  | swept, s => s.enqueued.length = 1 ∧ s.waiting = [] ∧ s.routed = false

variable {s t : Closing} {a : Action}

theorem admits_iff_not_sends {stage : Stage} (hstage : stage ≠ unclosed)
    (h : stage.Matches s) : stage.Admits s a <-> s.sendsRst a = false := by
  cases stage with
  | unclosed => exact absurd rfl hstage
  | pending setsDropped => cases a <;> simp [Admits, sendsRst]
  | closed =>
      have hdropped : s.conn.dropped = true := h.right.right
      cases a <;> simp [Admits, sendsRst, hdropped]
  | swept =>
      have hrouted : s.routed = false := h.right.right
      cases a <;> simp [Admits, sendsRst, hrouted]

theorem closesFirst_iff_admits {stage : Stage} (h : stage.Matches s) :
    s.ClosesFirst a <-> stage.Admits s a := by
  by_cases hstage : stage = unclosed
  · subst hstage
    exact iff_of_true (fun _ => h) trivial
  · have hothers : ¬ (s.enqueued = [] ∧ s.waiting = []) := by
      intro hnone
      cases stage with
      | unclosed => exact hstage rfl
      | pending setsDropped =>
          rcases h.right.left with ⟨packet, hwaiting⟩
          rw [hwaiting] at hnone
          cases hnone.right
      | closed =>
          have hone := h.left
          rw [hnone.left] at hone
          cases hone
      | swept =>
          have hone := h.left
          rw [hnone.left] at hone
          cases hone
    rw [admits_iff_not_sends hstage h]
    unfold ClosesFirst
    rw [← Bool.not_eq_true]
    exact ⟨fun hfirst hsends => hothers (hfirst hsends),
      fun hnot hsends => absurd hsends hnot⟩

end Stage

structure Quiet (s t : Closing) : Prop where
  enqueued : t.enqueued = s.enqueued
  waiting : t.waiting = s.waiting
  dropped : s.conn.dropped = true -> t.conn.dropped = true
  routed : s.routed = false -> t.routed = false

theorem Quiet.refl (s : Closing) : s.Quiet s :=
  ⟨rfl, rfl, fun h => h, fun h => h⟩

def Action.ends : Action -> Bool
  | .sent _ | .givenUp _ => true
  | _ => false

theorem closeBlocking_of_ne (s : Closing) {answer : SendAnswer}
    (h : answer ≠ .sent) : s.closeBlocking answer = s := by
  cases answer with
  | sent => exact absurd rfl h
  | full => rfl
  | disconnected => rfl

theorem pollShutdown_of_not {s : Closing} {flag : SendAnswer}
    (h : (flag = .sent && !s.conn.dropped) = false) :
    s.pollShutdown flag = s := by
  cases flag with
  | full => rfl
  | disconnected => rfl
  | sent =>
      have hdropped : s.conn.dropped = true := by simpa using h
      exact if_pos hdropped

theorem drop_of_not {s : Closing} {answer : SendAnswer}
    (h : (answer = .sent && !s.conn.dropped) = false) :
    s.drop answer = { s with alive := false } := by
  unfold drop
  cases hdropped : s.conn.dropped with
  | true => rfl
  | false =>
      have hanswer : answer ≠ .sent := by simpa [hdropped] using h
      exact closeBlocking_of_ne _ hanswer

theorem cleanupConn_of_not {s : Closing}
    (h : (s.routed && s.alive && !s.conn.dropped) = false) :
    s.cleanupConn = { s with routed := false } :=
  if_neg (ne_true_of_eq_false h)

theorem closeAll_of_not {s : Closing} (h : (s.routed && s.alive) = false) :
    s.closeAll = { s with routed := false } :=
  if_neg (ne_true_of_eq_false h)

theorem closeAllBlocking_of_not {s : Closing} {answer : SendAnswer}
    (h : (answer = .sent && (s.routed && s.alive)) = false) :
    s.closeAllBlocking answer = { s with routed := false } := by
  unfold closeAllBlocking
  cases hfound : s.routed && s.alive with
  | false => rfl
  | true =>
      have hanswer : answer ≠ .sent := by simpa [hfound] using h
      cases answer with
      | sent => exact absurd rfl hanswer
      | full => rfl
      | disconnected => rfl

theorem step_quiet {s t : Closing} {a : Action} (hstep : step s a = some t)
    (hsends : s.sendsRst a = false) (hends : a.ends = false) : s.Quiet t := by
  have hunrouted : s.Quiet { s with routed := false } :=
    ⟨rfl, rfl, fun h => h, fun _ => rfl⟩
  cases a with
  | transfer sentBytes receivedBytes =>
      cases hstep
      exact ⟨rfl, rfl, fun h => h, fun h => h⟩
  | unroute =>
      cases hstep
      exact hunrouted
  | close => cases hsends
  | closeBlocking answer =>
      rcases Machine.of_enabled_if hstep with ⟨_, hnext⟩
      rw [closeBlocking_of_ne s (of_decide_eq_false hsends)] at hnext
      cases hnext
      exact .refl s
  | pollShutdown flag =>
      rcases Machine.of_enabled_if hstep with ⟨_, hnext⟩
      rw [pollShutdown_of_not hsends] at hnext
      cases hnext
      exact .refl s
  | cleanupConn =>
      cases hstep
      rw [cleanupConn_of_not hsends]
      exact hunrouted
  | closeAll =>
      cases hstep
      rw [closeAll_of_not hsends]
      exact hunrouted
  | closeAllBlocking answer =>
      cases hstep
      rw [closeAllBlocking_of_not hsends]
      exact hunrouted
  | shutdown =>
      cases hstep
      rw [closeAll_of_not hsends]
      exact hunrouted
  | dropLast answer =>
      rcases Machine.of_enabled_if hstep with ⟨_, hnext⟩
      rw [drop_of_not hsends] at hnext
      cases hnext
      exact ⟨rfl, rfl, fun h => h, fun h => h⟩
  | sent i => cases hends
  | givenUp i => cases hends

namespace Stage

variable {s t : Closing} {a : Action}

theorem matches_of_quiet {stage : Stage} (h : stage.Matches s)
    (hquiet : s.Quiet t) : stage.Matches t := by
  cases stage with
  | unclosed =>
      exact ⟨hquiet.enqueued.trans h.left, hquiet.waiting.trans h.right⟩
  | pending setsDropped =>
      rcases h with ⟨hnone, ⟨packet, hwaiting⟩, hrouted⟩
      exact ⟨hquiet.enqueued.trans hnone,
        ⟨packet, hquiet.waiting.trans hwaiting⟩,
        fun hleaves => hquiet.routed (hrouted hleaves)⟩
  | closed =>
      exact ⟨(congrArg List.length hquiet.enqueued).trans h.left,
        hquiet.waiting.trans h.right.left, hquiet.dropped h.right.right⟩
  | swept =>
      exact ⟨(congrArg List.length hquiet.enqueued).trans h.left,
        hquiet.waiting.trans h.right.left, hquiet.routed h.right.right⟩

theorem next_of_quiet (stage : Stage) (hsends : s.sendsRst a = false)
    (hends : a.ends = false) : stage.next s a = stage := by
  cases stage with
  | pending setsDropped =>
      cases a with
      | sent i => cases hends
      | givenUp i => cases hends
      | _ => rfl
  | closed => cases a <;> rfl
  | swept => cases a <;> rfl
  | unclosed =>
      cases a with
      | close => cases hsends
      | closeBlocking answer =>
          cases answer with
          | sent => cases hsends
          | full => rfl
          | disconnected => rfl
      | pollShutdown flag =>
          cases flag with
          | sent => exact if_pos (by simpa [sendsRst] using hsends)
          | full => rfl
          | disconnected => rfl
      | cleanupConn => exact if_neg (ne_true_of_eq_false hsends)
      | closeAll => exact if_neg (ne_true_of_eq_false hsends)
      | shutdown => exact if_neg (ne_true_of_eq_false hsends)
      | closeAllBlocking answer =>
          cases answer with
          | sent => exact if_neg (ne_true_of_eq_false hsends)
          | full => rfl
          | disconnected => rfl
      | dropLast answer =>
          cases answer with
          | sent => exact if_pos (by simpa [sendsRst] using hsends)
          | full => rfl
          | disconnected => rfl
      | _ => rfl

theorem matches_of_sends (h : unclosed.Matches s)
    (hstep : step s a = some t) (hsends : s.sendsRst a = true) :
    (unclosed.next s a).Matches t := by
  rcases h with ⟨hnone, hwaiting⟩
  cases a with
  | close =>
      rcases Machine.of_enabled_if hstep with ⟨_, hnext⟩
      cases hnext
      exact ⟨hnone, ⟨_, congrArg (· ++ _) hwaiting⟩, nofun⟩
  | closeBlocking answer =>
      rcases Machine.of_enabled_if hstep with ⟨_, hnext⟩
      have hanswer : answer = .sent := of_decide_eq_true hsends
      subst hanswer
      cases hnext
      exact ⟨congrArg (fun l => (l ++ [_]).length) hnone, hwaiting, rfl⟩
  | pollShutdown flag =>
      rcases Machine.of_enabled_if hstep with ⟨_, hnext⟩
      rcases Bool.and_eq_true_iff.mp hsends with ⟨hflag, hdropped⟩
      have hsent : flag = .sent := of_decide_eq_true hflag
      have hopen : ¬ s.conn.dropped = true := by simpa using hdropped
      subst hsent
      simp only [pollShutdown, if_neg hopen, Option.some.injEq] at hnext
      subst hnext
      simp only [next, if_neg hopen]
      exact ⟨congrArg (fun l => (l ++ [_]).length) hnone, hwaiting, rfl⟩
  | cleanupConn =>
      have hfound : (s.routed && s.alive && !s.conn.dropped) = true := hsends
      cases hstep
      simp only [next, cleanupConn, if_pos hfound]
      exact ⟨hnone, ⟨_, congrArg (· ++ _) hwaiting⟩, nofun⟩
  | closeAll =>
      have hfound : (s.routed && s.alive) = true := hsends
      cases hstep
      simp only [next, closeAll, if_pos hfound]
      exact ⟨hnone, ⟨_, congrArg (· ++ _) hwaiting⟩, fun _ => rfl⟩
  | shutdown =>
      have hfound : (s.routed && s.alive) = true := hsends
      cases hstep
      simp only [next, closeAll, if_pos hfound]
      exact ⟨hnone, ⟨_, congrArg (· ++ _) hwaiting⟩, fun _ => rfl⟩
  | closeAllBlocking answer =>
      rcases Bool.and_eq_true_iff.mp hsends with ⟨hanswer, hfound⟩
      have hsent : answer = .sent := of_decide_eq_true hanswer
      subst hsent
      cases hstep
      simp only [next, closeAllBlocking, if_pos hfound]
      exact ⟨congrArg (fun l => (l ++ [_]).length) hnone, hwaiting, rfl⟩
  | dropLast answer =>
      rcases Machine.of_enabled_if hstep with ⟨_, hnext⟩
      rcases Bool.and_eq_true_iff.mp hsends with ⟨hanswer, hdropped⟩
      have hsent : answer = .sent := of_decide_eq_true hanswer
      have hopen : ¬ s.conn.dropped = true := by simpa using hdropped
      subst hsent
      simp only [Closing.drop, if_neg hopen, Option.some.injEq] at hnext
      subst hnext
      simp only [next, if_neg hopen]
      exact ⟨congrArg (fun l => (l ++ [_]).length) hnone, hwaiting, rfl⟩
  | _ => cases hsends

theorem matches_of_ends {stage : Stage} (h : stage.Matches s)
    (hstep : step s a = some t) (hends : a.ends = true) :
    (stage.next s a).Matches t := by
  have hother (hwaiting : s.waiting = []) : False := by
    cases a with
    | sent i =>
        rcases Option.map_eq_some_iff.mp hstep with ⟨rst, hi, _⟩
        rw [hwaiting] at hi
        cases hi
    | givenUp i =>
        rcases Option.map_eq_some_iff.mp hstep with ⟨rst, hi, _⟩
        rw [hwaiting] at hi
        cases hi
    | _ => cases hends
  cases stage with
  | unclosed => exact (hother h.right).elim
  | closed => exact (hother h.right.left).elim
  | swept => exact (hother h.right.left).elim
  | pending setsDropped =>
      rcases h with ⟨hnone, ⟨packet, hwaiting⟩, hrouted⟩
      have hfirst {i : Nat} {rst : WaitingRst} (hi : s.waiting[i]? = some rst) :
          i = 0 ∧ rst = ⟨packet, setsDropped⟩ := by
        rw [hwaiting] at hi
        rcases List.getElem?_eq_some_iff.mp hi with ⟨hlt, hget⟩
        have hzero : i = 0 := Nat.lt_one_iff.mp hlt
        subst hzero
        exact ⟨rfl, hget.symm⟩
      cases a with
      | sent i =>
          rcases Option.map_eq_some_iff.mp hstep with ⟨rst, hi, rfl⟩
          rcases hfirst hi with ⟨rfl, rfl⟩
          have herased : s.waiting.eraseIdx 0 = [] := by
            rw [hwaiting]
            rfl
          cases setsDropped with
          | true =>
              exact ⟨congrArg (fun l => (l ++ [_]).length) hnone, herased, rfl⟩
          | false =>
              exact ⟨congrArg (fun l => (l ++ [_]).length) hnone, herased,
                hrouted rfl⟩
      | givenUp i =>
          rcases Option.map_eq_some_iff.mp hstep with ⟨rst, hi, rfl⟩
          rcases hfirst hi with ⟨rfl, rfl⟩
          refine ⟨hnone, ?_⟩
          show s.waiting.eraseIdx 0 = []
          rw [hwaiting]
          rfl
      | _ => cases hends

theorem matches_next {stage : Stage} (h : stage.Matches s)
    (hstep : step s a = some t) (hfirst : s.ClosesFirst a) :
    (stage.next s a).Matches t := by
  cases hends : a.ends with
  | true => exact matches_of_ends h hstep hends
  | false =>
      cases hsends : s.sendsRst a with
      | false =>
          rw [stage.next_of_quiet hsends hends]
          exact matches_of_quiet h (step_quiet hstep hsends hends)
      | true =>
          have hunclosed : stage = unclosed := by
            by_contra hstage
            have hadmits := (closesFirst_iff_admits h).mp hfirst
            rw [admits_iff_not_sends hstage h, hsends] at hadmits
            cases hadmits
          subst hunclosed
          exact matches_of_sends h hstep hsends

end Stage

/--
At no point of a run two RST packets are sent or on their way, exactly if every
operation is one that the stage to which those before it have brought the
connection admits.
-/
theorem atMostOneRst_iff (conn : UsbDeviceConn) (routed : Bool)
    (actions : List Action) :
    (forall pre later, pre <+: actions ->
        (forall a, a ∈ later -> a.isSent) ->
        Machine.Throughout step AtMostOneRst (start conn routed)
          (pre ++ later)) <->
      Machine.GuardedWith step Stage.next Stage.Admits .unclosed
        (start conn routed) actions := by
  have hunclosed : Stage.unclosed.Matches (start conn routed) := ⟨rfl, rfl⟩
  rw [atMostOneRst_iff_closesFirst]
  apply Machine.guarded_iff_guardedWith (J := Stage.Matches)
  · intro stage s a t h _
    exact Stage.closesFirst_iff_admits h
  · intro stage s a t h hstep hfirst
    exact Stage.matches_next h hstep hfirst
  · exact hunclosed

/-- After `close_all` the last owner sends another RST. -/
theorem not_atMostOneRst_dropLast :
    ¬ forall (conn : UsbDeviceConn) (routed : Bool) (actions : List Action),
      Machine.Throughout step AtMostOneRst (start conn routed) actions := by
  intro h
  have htwice : 2 <= 1 := (h (.opened 62078 1) true
    [.closeAll, .sent 0, .dropLast .sent]).last rfl
  exact absurd htwice (by decide)

end Closing

end Device
end Rusbmux
