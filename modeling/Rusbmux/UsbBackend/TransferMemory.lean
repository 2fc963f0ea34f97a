import Rusbmux.Foundation.HeapLog
import Rusbmux.Foundation.Machine

/-!
# The memory of transfers

`alloc_and_submit`, `bulk_callback` and the drop of a `TransferHandle` of
`usb_backend/rusb/mod.rs` manage the memory of a transfer by hand.  The callback
runs on the thread of libusb, once for every transfer that was submitted, and
its steps may come between those of any task; the drop of a handle is two steps,
since it asks whether the transfer is completed before it cancels it.
-/

namespace Rusbmux
namespace UsbBackend

open Foundation
open Foundation.HeapLog

inductive Allocation where
  | transfer
  | buffer
  | userData
deriving DecidableEq, Repr

structure Memory where
  kind : Allocation
  call : Nat
deriving DecidableEq, Repr

inductive Callback where
  | expected
  | running
  | ended
deriving DecidableEq, Repr

inductive Handle where
  | held
  | cancelling
  | dropped
deriving DecidableEq, Repr

structure Transfer where
  completed : Bool := false
  callback : Callback := .expected
  handle : Handle := .held
deriving DecidableEq, Repr

structure TransferMemory where
  /-- The next call of `alloc_and_submit`. -/
  next : Nat := 0
  transfers : Nat -> Option Transfer := fun _ => none
  log : List (HeapEvent Memory) := []

namespace TransferMemory

inductive Action where
  /-- A call of `alloc_and_submit`, with what libusb returns for it. -/
  | allocAndSubmit (allocated : Bool) (ret : Int)
  | callbackStarts (call : Nat) (actualLength : Int)
  | callbackEnds (call : Nat)
  | dropLoads (call : Nat)
  | dropCancels (call : Nat)
deriving DecidableEq, Repr

def submitted (m : TransferMemory) (events : List (HeapEvent Memory))
    (transfer : Option Transfer) : TransferMemory where
  next := m.next + 1
  transfers := Function.update m.transfers m.next transfer
  log := m.log ++ events

def moved (m : TransferMemory) (call : Nat) (transfer : Transfer)
    (events : List (HeapEvent Memory)) : TransferMemory where
  next := m.next
  transfers := Function.update m.transfers call (some transfer)
  log := m.log ++ events

def allocAndSubmit (m : TransferMemory) (allocated : Bool) (ret : Int) :
    TransferMemory :=
  if ¬ allocated then
    m.submitted [.alloc ⟨.buffer, m.next⟩, .free ⟨.buffer, m.next⟩] none
  else
    let prepared : List (HeapEvent Memory) :=
      [.alloc ⟨.buffer, m.next⟩, .alloc ⟨.transfer, m.next⟩,
        .alloc ⟨.userData, m.next⟩, .use ⟨.transfer, m.next⟩]
    if ret ≠ 0 then
      m.submitted (prepared ++ [.free ⟨.userData, m.next⟩,
        .free ⟨.buffer, m.next⟩, .free ⟨.transfer, m.next⟩]) none
    else
      m.submitted prepared (some {})

/-- What the callback reads and writes before it sends the result. -/
def readEvents (call : Nat) (actualLength : Int) : List (HeapEvent Memory) :=
  [.use ⟨.transfer, call⟩, .use ⟨.userData, call⟩, .use ⟨.transfer, call⟩] ++
    if (max actualLength 0).toNat > 0 then [.use ⟨.buffer, call⟩] else []

/-- The result is sent; the user data go out of scope last. -/
def freeEvents (call : Nat) : List (HeapEvent Memory) :=
  [.use ⟨.userData, call⟩, .free ⟨.buffer, call⟩, .free ⟨.transfer, call⟩,
    .free ⟨.userData, call⟩]

def stepTransfer (m : TransferMemory) (call : Nat) (t : Transfer) :
    Action -> Option TransferMemory
  | .callbackStarts _ actualLength =>
      if t.callback = .expected then
        some (m.moved call { t with completed := true, callback := .running }
          (readEvents call actualLength))
      else none
  | .callbackEnds _ =>
      if t.callback = .running then
        some (m.moved call { t with callback := .ended } (freeEvents call))
      else none
  | .dropLoads _ =>
      if t.handle = .held then
        some (m.moved call
          { t with handle := if t.completed then .dropped else .cancelling } [])
      else none
  | .dropCancels _ =>
      if t.handle = .cancelling then
        some (m.moved call { t with handle := .dropped }
          [.use ⟨.transfer, call⟩])
      else none
  | .allocAndSubmit _ _ => none

def step : Machine TransferMemory Action := fun m a =>
  match a with
  | .allocAndSubmit allocated ret => some (m.allocAndSubmit allocated ret)
  | .callbackStarts call _ | .callbackEnds call | .dropLoads call
  | .dropCancels call =>
      (m.transfers call).bind fun t => m.stepTransfer call t a

/-!
## What the steps do to the memory
-/

def Action.call : Action -> Option Nat
  | .allocAndSubmit _ _ => none
  | .callbackStarts call _ | .callbackEnds call | .dropLoads call
  | .dropCancels call => some call

inductive Move (call : Nat) (t : Transfer) :
    Action -> Transfer -> List (HeapEvent Memory) -> Prop
  | starts (actualLength : Int) (h : t.callback = .expected) :
      Move call t (.callbackStarts call actualLength)
        { t with completed := true, callback := .running }
        (readEvents call actualLength)
  | ends (h : t.callback = .running) :
      Move call t (.callbackEnds call) { t with callback := .ended }
        (freeEvents call)
  | loads (h : t.handle = .held) :
      Move call t (.dropLoads call)
        { t with handle := if t.completed then .dropped else .cancelling } []
  | cancels (h : t.handle = .cancelling) :
      Move call t (.dropCancels call) { t with handle := .dropped }
        [.use ⟨.transfer, call⟩]

theorem step_cases {m n : TransferMemory} {a : Action}
    (hstep : step m a = some n) :
    (exists allocated ret, a = .allocAndSubmit allocated ret ∧
        n = m.allocAndSubmit allocated ret) ∨
      exists call t t' events, m.transfers call = some t ∧
        Move call t a t' events ∧ n = m.moved call t' events := by
  cases a with
  | allocAndSubmit allocated ret =>
      exact Or.inl ⟨allocated, ret, rfl, (Option.some.inj hstep).symm⟩
  | callbackStarts call actualLength =>
      rcases Option.bind_eq_some_iff.mp hstep with ⟨t, ht, hmove⟩
      rcases Machine.of_enabled_if hmove with ⟨hcallback, hn⟩
      exact Or.inr ⟨call, t, _, _, ht, .starts actualLength hcallback,
        (Option.some.inj hn).symm⟩
  | callbackEnds call =>
      rcases Option.bind_eq_some_iff.mp hstep with ⟨t, ht, hmove⟩
      rcases Machine.of_enabled_if hmove with ⟨hcallback, hn⟩
      exact Or.inr ⟨call, t, _, _, ht, .ends hcallback,
        (Option.some.inj hn).symm⟩
  | dropLoads call =>
      rcases Option.bind_eq_some_iff.mp hstep with ⟨t, ht, hmove⟩
      rcases Machine.of_enabled_if hmove with ⟨hhandle, hn⟩
      exact Or.inr ⟨call, t, _, _, ht, .loads hhandle,
        (Option.some.inj hn).symm⟩
  | dropCancels call =>
      rcases Option.bind_eq_some_iff.mp hstep with ⟨t, ht, hmove⟩
      rcases Machine.of_enabled_if hmove with ⟨hhandle, hn⟩
      exact Or.inr ⟨call, t, _, _, ht, .cancels hhandle,
        (Option.some.inj hn).symm⟩

def submitEvents (call : Nat) (allocated : Bool) (ret : Int) :
    List (HeapEvent Memory) :=
  if ¬ allocated then [.alloc ⟨.buffer, call⟩, .free ⟨.buffer, call⟩]
  else
    [.alloc ⟨.buffer, call⟩, .alloc ⟨.transfer, call⟩, .alloc ⟨.userData, call⟩,
        .use ⟨.transfer, call⟩] ++
      if ret ≠ 0 then [.free ⟨.userData, call⟩, .free ⟨.buffer, call⟩,
        .free ⟨.transfer, call⟩] else []

theorem allocAndSubmit_eq (m : TransferMemory) (allocated : Bool) (ret : Int) :
    m.allocAndSubmit allocated ret =
      m.submitted (submitEvents m.next allocated ret)
        (if allocated ∧ ret = 0 then some {} else none) := by
  cases allocated with
  | false => rfl
  | true =>
      by_cases hret : ret = 0
      · subst ret
        rfl
      · simp [allocAndSubmit, submitEvents, hret]

/-!
## Whose memory is live
-/

structure Accounted (m : TransferMemory) : Prop where
  call_lt : forall call t, m.transfers call = some t -> call < m.next
  alloc_lt : forall o, .alloc o ∈ m.log -> o.call < m.next
  free_lt : forall o, .free o ∈ m.log -> o.call < m.next
  transfer : forall call t, m.transfers call = some t -> forall kind,
    .alloc ⟨kind, call⟩ ∈ m.log ∧
      (.free ⟨kind, call⟩ ∈ m.log <-> t.callback = .ended)
  failed : forall call, m.transfers call = none -> forall kind,
    .alloc ⟨kind, call⟩ ∈ m.log -> .free ⟨kind, call⟩ ∈ m.log
  managed : Sound (HeapLog.managed m.log)

theorem Accounted.init : Accounted {} where
  call_lt := by
    intro call t h
    cases h
  alloc_lt := by simp
  free_lt := by simp
  transfer := by
    intro call t h
    cases h
  failed := by simp
  managed := trivial

theorem Accounted.live_iff {m : TransferMemory} (h : Accounted m)
    (o : Memory) :
    Live m.log o <->
      exists t, m.transfers o.call = some t ∧ t.callback ≠ .ended := by
  cases htransfer : m.transfers o.call with
  | none =>
      constructor
      · intro hlive
        exact absurd (h.failed o.call htransfer o.kind hlive.left) hlive.right
      · rintro ⟨t, ht, -⟩
        cases ht
  | some t =>
      have hmemory := h.transfer o.call t htransfer o.kind
      constructor
      · intro hlive
        exact ⟨t, rfl, fun hended => hlive.right (hmemory.right.mpr hended)⟩
      · rintro ⟨t', ht', hrunning⟩
        cases ht'
        exact ⟨hmemory.left, fun hfree => hrunning (hmemory.right.mp hfree)⟩

theorem Accounted.live {m : TransferMemory} (h : Accounted m) {call : Nat}
    {t : Transfer} (ht : m.transfers call = some t) (hend : t.callback ≠ .ended)
    (kind : Allocation) : Live m.log ⟨kind, call⟩ :=
  (h.live_iff ⟨kind, call⟩).mpr ⟨t, ht, hend⟩

/-!
## Steps on the memory
-/

theorem alloc_mem_submitEvents (call : Nat) (allocated : Bool) (ret : Int)
    (o : Memory) :
    .alloc o ∈ submitEvents call allocated ret <->
      o.call = call ∧ (o.kind = .buffer ∨ allocated) := by
  rcases o with ⟨kind, c⟩
  cases allocated <;> cases kind <;> by_cases hret : ret = 0 <;>
    simp [submitEvents, hret]

theorem free_mem_submitEvents (call : Nat) (allocated : Bool) (ret : Int)
    (o : Memory) :
    .free o ∈ submitEvents call allocated ret <->
      o.call = call ∧ ((allocated ∧ ret ≠ 0) ∨
        (o.kind = .buffer ∧ ¬ allocated)) := by
  rcases o with ⟨kind, c⟩
  cases allocated <;> cases kind <;> by_cases hret : ret = 0 <;>
    simp [submitEvents, hret]

theorem soundFrom_submitEvents {log : List (HeapEvent Memory)} {call : Nat}
    (halloc : forall kind, .alloc ⟨kind, call⟩ ∉ log)
    (hfree : forall kind, .free ⟨kind, call⟩ ∉ log) (allocated : Bool)
    (ret : Int) : SoundFrom log (submitEvents call allocated ret) := by
  cases allocated <;> by_cases hret : ret = 0 <;>
    simp [submitEvents, hret, Allowed, Live, halloc, hfree]

theorem Move.alloc_not_mem {call : Nat} {t t' : Transfer} {a : Action}
    {events : List (HeapEvent Memory)} (h : Move call t a t' events)
    (o : Memory) : .alloc o ∉ events := by
  cases h with
  | starts actualLength =>
      rw [readEvents]
      split <;> simp
  | ends => simp [freeEvents]
  | loads => simp
  | cancels => simp

theorem Move.free_mem_iff {call : Nat} {t t' : Transfer} {a : Action}
    {events : List (HeapEvent Memory)} (h : Move call t a t' events)
    (o : Memory) :
    .free o ∈ events <-> o.call = call ∧ a = .callbackEnds call := by
  cases h with
  | starts actualLength =>
      rw [readEvents]
      split <;> simp
  | ends =>
      rcases o with ⟨kind, c⟩
      cases kind <;> simp [freeEvents]
  | loads => simp
  | cancels => simp

theorem Move.ended_iff {call : Nat} {t t' : Transfer} {a : Action}
    {events : List (HeapEvent Memory)} (h : Move call t a t' events) :
    t'.callback = .ended <-> t.callback = .ended ∨ a = .callbackEnds call := by
  cases h with
  | starts actualLength hcallback => simp [hcallback]
  | ends => simp
  | loads => simp
  | cancels => simp

theorem Move.not_ended {call : Nat} {t t' : Transfer} {a : Action}
    {events : List (HeapEvent Memory)} (h : Move call t a t' events)
    (hdrop : a ≠ .dropLoads call) (hcancel : a ≠ .dropCancels call) :
    t.callback ≠ .ended := by
  cases h with
  | starts actualLength hcallback => simp [hcallback]
  | ends hcallback => simp [hcallback]
  | loads => exact absurd rfl hdrop
  | cancels => exact absurd rfl hcancel

theorem Move.soundFrom {call : Nat} {t t' : Transfer} {a : Action}
    {log events : List (HeapEvent Memory)} (h : Move call t a t' events)
    (hlive : forall kind, Live log ⟨kind, call⟩) : SoundFrom log events := by
  have halloc := fun kind => (hlive kind).left
  have hfree := fun kind => (hlive kind).right
  cases h with
  | starts actualLength =>
      rw [readEvents]
      split <;> simp [Allowed, Live, halloc, hfree]
  | ends => simp [freeEvents, Allowed, Live, halloc, hfree]
  | loads => exact soundFrom_nil log
  | cancels => simp [Allowed, Live, halloc, hfree]

theorem Accounted.submit {m : TransferMemory} (h : Accounted m)
    (allocated : Bool) (ret : Int) :
    Accounted (m.allocAndSubmit allocated ret) := by
  have halloc : forall kind, .alloc ⟨kind, m.next⟩ ∉ m.log := fun kind hmem =>
    absurd (h.alloc_lt _ hmem) (Nat.lt_irrefl m.next)
  have hfree : forall kind, .free ⟨kind, m.next⟩ ∉ m.log := fun kind hmem =>
    absurd (h.free_lt _ hmem) (Nat.lt_irrefl m.next)
  have hold : forall call, call ≠ m.next -> forall kind,
      .alloc ⟨kind, call⟩ ∉ submitEvents m.next allocated ret ∧
        .free ⟨kind, call⟩ ∉ submitEvents m.next allocated ret := by
    intro call hcall kind
    constructor
    · intro hmem
      exact hcall ((alloc_mem_submitEvents m.next allocated ret _).mp hmem).left
    · intro hmem
      exact hcall ((free_mem_submitEvents m.next allocated ret _).mp hmem).left
  rw [allocAndSubmit_eq]
  constructor
  case call_lt =>
    intro call t ht
    by_cases hcall : call = m.next
    · subst call
      exact Nat.lt_succ_self m.next
    · have hbefore := (Function.update_of_ne hcall _ m.transfers).symm.trans ht
      exact Nat.lt_succ_of_lt (h.call_lt call t hbefore)
  case alloc_lt =>
    intro o hmem
    rcases List.mem_append.mp hmem with hmem | hmem
    · exact Nat.lt_succ_of_lt (h.alloc_lt o hmem)
    · rw [((alloc_mem_submitEvents m.next allocated ret o).mp hmem).left]
      exact Nat.lt_succ_self m.next
  case free_lt =>
    intro o hmem
    rcases List.mem_append.mp hmem with hmem | hmem
    · exact Nat.lt_succ_of_lt (h.free_lt o hmem)
    · rw [((free_mem_submitEvents m.next allocated ret o).mp hmem).left]
      exact Nat.lt_succ_self m.next
  case transfer =>
    intro call t ht kind
    by_cases hcall : call = m.next
    · subst call
      have hnew := (Function.update_self m.next _ m.transfers).symm.trans ht
      rcases Machine.of_enabled_if hnew with ⟨⟨rfl, rfl⟩, hstart⟩
      cases hstart
      simp [submitted, hfree, alloc_mem_submitEvents, free_mem_submitEvents]
    · have hbefore := (Function.update_of_ne hcall _ m.transfers).symm.trans ht
      have hnone := hold call hcall kind
      simpa [submitted, hnone.left, hnone.right] using
        h.transfer call t hbefore kind
  case failed =>
    intro call hnot kind hmem
    by_cases hcall : call = m.next
    · subst call
      have hnew := (Function.update_self m.next _ m.transfers).symm.trans hnot
      have hfailed : ¬ (allocated ∧ ret = 0) := by
        intro hboth
        rw [if_pos hboth] at hnew
        cases hnew
      rcases List.mem_append.mp hmem with hmem | hmem
      · exact absurd hmem (halloc kind)
      · apply List.mem_append_right
        rw [free_mem_submitEvents]
        have hkind :=
          ((alloc_mem_submitEvents m.next allocated ret _).mp hmem).right
        cases allocated with
        | false => simpa using hkind
        | true => simpa using hfailed
    · have hbefore := (Function.update_of_ne hcall _ m.transfers).symm.trans hnot
      rcases List.mem_append.mp hmem with hmem | hmem
      · exact List.mem_append_left _ (h.failed call hbefore kind hmem)
      · exact absurd hmem (hold call hcall kind).left
  case managed =>
    rw [submitted, managed_append, sound_append]
    exact ⟨h.managed,
      soundFrom_managed (soundFrom_submitEvents halloc hfree allocated ret)⟩

theorem Accounted.move {m : TransferMemory} (h : Accounted m) {call : Nat}
    {t t' : Transfer} {a : Action} {events : List (HeapEvent Memory)}
    (ht : m.transfers call = some t) (hmove : Move call t a t' events) :
    Accounted (m.moved call t' events) := by
  constructor
  case call_lt =>
    intro other u hu
    rcases of_update_eq_some hu with ⟨rfl, -⟩ | ⟨-, hu⟩
    · exact h.call_lt _ t ht
    · exact h.call_lt other u hu
  case alloc_lt =>
    intro o hmem
    rcases List.mem_append.mp hmem with hmem | hmem
    · exact h.alloc_lt o hmem
    · exact absurd hmem (hmove.alloc_not_mem o)
  case free_lt =>
    intro o hmem
    rcases List.mem_append.mp hmem with hmem | hmem
    · exact h.free_lt o hmem
    · rw [((hmove.free_mem_iff o).mp hmem).left]
      exact h.call_lt call t ht
  case transfer =>
    intro other u hu kind
    rcases of_update_eq_some hu with ⟨rfl, rfl⟩ | ⟨hother, hu⟩
    · rcases h.transfer other t ht kind with ⟨halloc, hfree⟩
      simp [moved, halloc, hfree, hmove.alloc_not_mem, hmove.free_mem_iff,
        hmove.ended_iff]
    · rcases h.transfer other u hu kind with ⟨halloc, hfree⟩
      simp [moved, halloc, hfree, hmove.alloc_not_mem, hmove.free_mem_iff,
        hother]
  case failed =>
    intro other hnot kind hmem
    have hother : other ≠ call := by
      rintro rfl
      have hself := Function.update_self other (some t') m.transfers
      cases hself.symm.trans hnot
    have hbefore := (Function.update_of_ne hother _ m.transfers).symm.trans hnot
    rcases List.mem_append.mp hmem with hmem | hmem
    · exact List.mem_append_left _ (h.failed other hbefore kind hmem)
    · exact absurd hmem (hmove.alloc_not_mem _)
  case managed =>
    rw [moved, managed_append, sound_append]
    refine ⟨h.managed, ?_⟩
    by_cases hdrop : a = .dropLoads call ∨ a = .dropCancels call
    · have hnone : HeapLog.managed events = [] := by
        rcases hdrop with rfl | rfl
        · cases hmove
          rfl
        · cases hmove
          rfl
      rw [hnone]
      exact soundFrom_nil _
    · push Not at hdrop
      exact soundFrom_managed (hmove.soundFrom
        (h.live ht (hmove.not_ended hdrop.left hdrop.right)))

theorem Accounted.step {m n : TransferMemory} {a : Action} (h : Accounted m)
    (hstep : step m a = some n) : Accounted n := by
  rcases step_cases hstep with
    ⟨allocated, ret, -, rfl⟩ | ⟨call, t, t', events, ht, hmove, rfl⟩
  · exact h.submit allocated ret
  · exact h.move ht hmove

theorem accounted_of_run {m : TransferMemory} {acts : List Action}
    (hrun : Machine.run TransferMemory.step {} acts = some m) : Accounted m :=
  Machine.run_invariant (I := Accounted) (fun _ _ _ h hstep => h.step hstep)
    Accounted.init hrun

/-!
## Every run
-/

/--
In every run, whatever the threads do in between, no allocation is freed twice,
and those that are not freed are those of the transfers whose callback has not
ended.
-/
theorem memory_accounted {m : TransferMemory} {acts : List Action}
    (hrun : Machine.run TransferMemory.step {} acts = some m) :
    (forall o, m.log.count (.free o) <= 1) ∧
      forall o, Live m.log o <->
        exists t, m.transfers o.call = some t ∧ t.callback ≠ .ended := by
  have h : Accounted m := accounted_of_run hrun
  constructor
  · intro o
    rw [← count_free_managed]
    exact h.managed.count_free_le_one o
  · exact h.live_iff

def abandonedRead : List Action :=
  [.allocAndSubmit true (-4), .allocAndSubmit true 0, .dropLoads 1,
    .callbackStarts 1 3, .dropCancels 1, .callbackEnds 1]

theorem memory_accounted_abandonedRead :
    exists m, Machine.run TransferMemory.step {} abandonedRead = some m ∧
      (forall o, m.log.count (.free o) <= 1) ∧
        forall o, Live m.log o <->
          exists t, m.transfers o.call = some t ∧ t.callback ≠ .ended := by
  have hrun : Machine.run TransferMemory.step {} abandonedRead = some _ := rfl
  exact ⟨_, hrun, memory_accounted hrun⟩

/-!
## A cancelled transfer
-/

def Ended (m : TransferMemory) (call : Nat) : Prop :=
  exists t, m.transfers call = some t ∧ t.callback = .ended

theorem ended_step {m n : TransferMemory} {a : Action} (h : Accounted m)
    (hstep : step m a = some n) (call : Nat) :
    n.Ended call <-> m.Ended call ∨ a = .callbackEnds call := by
  rcases step_cases hstep with
    ⟨allocated, ret, rfl, rfl⟩ | ⟨moving, t, t', events, ht, hmove, rfl⟩
  · rw [allocAndSubmit_eq]
    by_cases hnew : call = m.next
    · subst call
      have hnone : ¬ m.Ended m.next := by
        rintro ⟨t, ht, -⟩
        exact Nat.lt_irrefl _ (h.call_lt _ t ht)
      have hfresh : ¬ (m.submitted (submitEvents m.next allocated ret)
          (if allocated ∧ ret = 0 then some {} else none)).Ended m.next := by
        rintro ⟨t, ht, hended⟩
        have hstart := (Function.update_self m.next _ m.transfers).symm.trans ht
        rcases Machine.of_enabled_if hstart with ⟨-, hstart⟩
        cases hstart
        cases hended
      simp [hnone, hfresh]
    · simp [Ended, submitted, Function.update_of_ne hnew]
  · by_cases hmoving : call = moving
    · subst moving
      simp [Ended, moved, ht, hmove.ended_iff]
    · have hnot : a ≠ .callbackEnds call := by
        rintro rfl
        cases hmove
        exact hmoving rfl
      simp [Ended, moved, Function.update_of_ne hmoving, hnot]

theorem ended_of_run {m n : TransferMemory} {acts : List Action}
    (h : Accounted m) (hrun : Machine.run TransferMemory.step m acts = some n)
    (call : Nat) :
    n.Ended call <-> m.Ended call ∨ .callbackEnds call ∈ acts := by
  induction acts generalizing m with
  | nil =>
      cases hrun
      simp
  | cons a rest ih =>
      rcases Machine.run_cons_some hrun with ⟨k, hstep, hrest⟩
      rw [ih (h.step hstep) hrest, ended_step h hstep, or_assoc,
        List.mem_cons, eq_comm (a := a)]

def CancelsInTime (m : TransferMemory) (a : Action) : Prop :=
  forall call, a = .dropCancels call -> ¬ m.Ended call

theorem Move.soundFrom_of_inTime {m : TransferMemory} {call : Nat}
    {t t' : Transfer} {a : Action} {events : List (HeapEvent Memory)}
    (hmove : Move call t a t' events) (h : Accounted m)
    (ht : m.transfers call = some t) (htime : m.CancelsInTime a) :
    SoundFrom m.log events := by
  by_cases hdrop : a = .dropLoads call
  · subst a
    cases hmove
    exact soundFrom_nil m.log
  · apply hmove.soundFrom
    apply h.live ht
    by_cases hcancel : a = .dropCancels call
    · exact fun hended => htime call hcancel ⟨t, ht, hended⟩
    · exact hmove.not_ended hdrop hcancel

theorem sound_throughout_iff_inTime (acts : List Action) :
    Machine.Throughout TransferMemory.step (fun m => Sound m.log) {} acts <->
      Machine.Guarded TransferMemory.step CancelsInTime {} acts := by
  refine Machine.throughout_iff_guarded
    (J := fun m => Accounted m ∧ Sound m.log) ?_ ?_ ?_
    ⟨Accounted.init, trivial⟩ acts
  · intro m h
    exact h.right
  · rintro m a n ⟨h, hsound⟩ hstep htime
    refine ⟨h.step hstep, ?_⟩
    rcases step_cases hstep with
      ⟨allocated, ret, -, rfl⟩ | ⟨call, t, t', events, ht, hmove, rfl⟩
    · rw [allocAndSubmit_eq, submitted, sound_append]
      refine ⟨hsound, soundFrom_submitEvents ?_ ?_ allocated ret⟩
      · intro kind hmem
        exact Nat.lt_irrefl _ (h.alloc_lt _ hmem)
      · intro kind hmem
        exact Nat.lt_irrefl _ (h.free_lt _ hmem)
    · rw [moved, sound_append]
      exact ⟨hsound, hmove.soundFrom_of_inTime h ht htime⟩
  · rintro m a n ⟨h, -⟩ hstep hlate hsound
    simp only [CancelsInTime, not_forall, not_not] at hlate
    rcases hlate with ⟨call, rfl, t, ht, hended⟩
    rcases step_cases hstep with
      ⟨allocated, ret, hact, -⟩ | ⟨moving, u, u', events, hu, hmove, rfl⟩
    · cases hact
    · cases hmove
      cases hu.symm.trans ht
      rw [moved, sound_append] at hsound
      have hlive : Live m.log ⟨.transfer, call⟩ :=
        ((soundFrom_cons m.log _ []).mp hsound.right).left
      rcases (h.live_iff _).mp hlive with ⟨w, hw, hrunning⟩
      cases hu.symm.trans hw
      exact hrunning hended

theorem guarded_inTime_iff {m : TransferMemory} {acts : List Action}
    (hrun : Machine.run TransferMemory.step {} acts = some m) :
    Machine.Guarded TransferMemory.step CancelsInTime {} acts <->
      forall pre call, pre ++ [.dropCancels call] <+: acts ->
        .callbackEnds call ∉ pre := by
  have hended : forall pre k call,
      Machine.run TransferMemory.step {} pre = some k ->
        (k.Ended call <-> .callbackEnds call ∈ pre) := by
    intro pre k call hpre
    rw [ended_of_run Accounted.init hpre call]
    simp [Ended]
  constructor
  · intro h pre call hpre hmem
    rcases hpre with ⟨rest, rfl⟩
    rcases Machine.run_append_some hrun with ⟨n, hfirst, -⟩
    rcases Machine.run_append_some hfirst with ⟨k, hbefore, hlast⟩
    rcases Machine.run_cons_some hlast with ⟨n', hstep, -⟩
    exact h pre _ k n' (List.prefix_append ..) hbefore hstep call rfl
      ((hended pre k call hbefore).mpr hmem)
  · intro h pre a k n hpre hbefore _ call ha hlate
    subst a
    exact h pre call hpre ((hended pre k call hbefore).mp hlate)

/--
No step of a run touches memory that was freed, exactly if no handle cancels its
transfer once the callback of it has ended, although the drop has found it not
completed: nothing keeps the callback from ending between the two.
-/
theorem touchesLive_iff {m : TransferMemory} {acts : List Action}
    (hrun : Machine.run TransferMemory.step {} acts = some m) :
    Machine.Throughout TransferMemory.step (fun m => Sound m.log) {} acts <->
      forall pre call, pre ++ [.dropCancels call] <+: acts ->
        .callbackEnds call ∉ pre :=
  (sound_throughout_iff_inTime acts).trans (guarded_inTime_iff hrun)

def lateCancel : List Action :=
  [.allocAndSubmit true 0, .dropLoads 0, .callbackStarts 0 3, .callbackEnds 0,
    .dropCancels 0]

theorem touchesLive_lateCancel :
    ¬ Machine.Throughout TransferMemory.step (fun m => Sound m.log) {}
        lateCancel := by
  have hrun : Machine.run TransferMemory.step {} lateCancel = some _ := rfl
  rw [touchesLive_iff hrun]
  intro h
  exact h [.allocAndSubmit true 0, .dropLoads 0, .callbackStarts 0 3,
    .callbackEnds 0] 0 (List.prefix_refl _) (by decide)

end TransferMemory
end UsbBackend
end Rusbmux
