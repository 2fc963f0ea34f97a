import Rusbmux.UsbBackend.BulkWriter

/-!
# Bytes written once

A write that returns `Pending` has put its bytes on the way already, and it does
not take notice when their transfer is completed.  So every byte is written once,
and no write stalls, as long as no write is made while a transfer is in flight
and none fills the buffer.
-/

namespace Rusbmux
namespace UsbBackend

open Foundation

def Receiver.succeeds : Receiver -> Bool
  | waiting | finished => true
  | ready result => result.status = 0
  | closed => false

def Submission.succeeds : Submission -> Bool
  | .ok rx => rx.succeeds
  | .error _ => false

namespace WriterUse

open RusbAsyncWriter

def Action.succeeds : Action -> Bool
  | pollWrite _ submitted | repeatWrite submitted | pollFlush submitted =>
      Submission.succeeds submitted
  | submitEnd flushed ended => flushed.isOk && ended.isOk
  | complete result => result.status = 0
  | close => false

def faultFree : Machine WriterUse Action := fun u a =>
  if a.succeeds then step u a else none

/--
The bytes on the endpoint and those in the buffer are the bytes reported, unless
a write is outstanding, and no write returned `Pending` without a transfer in
flight.
-/
structure WritesOnce (u : WriterUse) : Prop where
  bytes : u.outstanding = none ->
    u.writer.endpoint.flatten ++ u.writer.buffer = u.reported
  waits : forall rx, rx ∈ u.waits -> rx = some .waiting

/-- The write finds no transfer in flight and does not fill the buffer. -/
def Fits (u : WriterUse) (buf : List UInt8) : Prop :=
  u.writer.pending = none ∧
    (buf = [] ∨ u.writer.buffer.length + buf.length < autoFlushLen)

/-- Every write that is made fits. -/
def WritesFit (u : WriterUse) (a : Action) : Prop :=
  match a with
  | .pollWrite buf _ => u.Fits buf
  | _ => True

/-- The transfer in flight is completed, or the outstanding write is repeated. -/
def Action.Continues : Action -> Prop
  | repeatWrite _ | complete _ => True
  | _ => False

/-!
## What a step does
-/

variable {u v : WriterUse}

/-- The transfer in flight has not failed. -/
def Sound (u : WriterUse) : Prop :=
  forall rx, u.writer.pending = some rx -> rx.succeeds = true

theorem write_of_fits {buf : List UInt8} (h : u.Fits buf)
    (submitted : Submission) :
    u.write buf submitted = some { u with
      writer := { u.writer with buffer := u.writer.buffer ++ buf }
      outstanding := none
      reported := u.reported ++ buf } := by
  unfold write RusbAsyncWriter.pollWrite
  rw [h.left]
  simp only
  by_cases hempty : buf = []
  · subst hempty
    simp only [List.isEmpty_nil, if_true, Option.map_some, List.append_nil,
      List.take_nil]
  · have hlen := h.right.resolve_left hempty
    have hshort : ¬ autoFlushLen <= (u.writer.buffer ++ buf).length := by
      rw [List.length_append]
      omega
    rw [if_neg (by simpa using hempty), if_neg hshort]
    simp only [Option.map_some, List.take_length]
    rw [h.left]

theorem write_of_not_fits (hsound : u.Sound) {buf : List UInt8}
    {submitted : Submission} (hsubmitted : Submission.succeeds submitted = true)
    (hnot : ¬ u.Fits buf) (hwrite : u.write buf submitted = some v) :
    exists rx, rx.succeeds = true ∧ v.writer.pending = some rx ∧
      v.outstanding = some buf ∧ v.waits = u.waits ++ [some rx] := by
  cases hpending : u.writer.pending with
  | some rx =>
      unfold write RusbAsyncWriter.pollWrite at hwrite
      have hsucceeds := hsound rx hpending
      rw [hpending] at hwrite
      cases rx with
      | waiting =>
          cases hwrite
          refine ⟨.waiting, rfl, hpending, rfl, ?_⟩
          show u.waits ++ [u.writer.pending] = _
          rw [hpending]
      | ready result =>
          have hstatus : ¬ result.status ≠ 0 :=
            not_not.mpr (of_decide_eq_true hsucceeds)
          unfold pollWriteInFlight Receiver.poll at hwrite
          simp only [if_neg hstatus] at hwrite
          cases hwrite
          exact ⟨.finished, rfl, rfl, rfl, rfl⟩
      | closed => cases hsucceeds
      | finished => cases hwrite
  | none =>
      have hbuf : buf ≠ [] := by
        intro hempty
        exact hnot ⟨hpending, Or.inl hempty⟩
      have hfull : autoFlushLen <= (u.writer.buffer ++ buf).length := by
        rw [List.length_append]
        by_contra hshort
        exact hnot ⟨hpending, Or.inr (Nat.lt_of_not_le hshort)⟩
      cases submitted with
      | error text => cases hsubmitted
      | ok rx =>
          rw [write_of_full rx hpending hbuf hfull] at hwrite
          cases hwrite
          exact ⟨rx, hsubmitted, rfl, rfl, rfl⟩

structure Flushes (s t : RusbAsyncWriter) : Prop where
  pending : (forall rx, s.pending = some rx -> rx.succeeds = true) ->
    forall rx, t.pending = some rx -> rx.succeeds = true
  bytes : exists data, t.endpoint = s.endpoint ++ data ∧
    Passes s.buffer [] data.flatten t.buffer

theorem Flushes.of_same {s t : RusbAsyncWriter} (hbuffer : t.buffer = s.buffer)
    (hendpoint : t.endpoint = s.endpoint)
    (hpending : (forall rx, s.pending = some rx -> rx.succeeds = true) ->
      forall rx, t.pending = some rx -> rx.succeeds = true) :
    Flushes s t where
  pending := hpending
  bytes := by
    refine ⟨[], ?_, ?_⟩
    · rw [hendpoint, List.append_nil]
    · rw [hbuffer]
      exact Passes.idle _

theorem Flushes.of_submitted {s t : RusbAsyncWriter} (hbuffer : t.buffer = [])
    (hendpoint : t.endpoint = s.endpoint ++ [s.buffer])
    (hpending : (forall rx, s.pending = some rx -> rx.succeeds = true) ->
      forall rx, t.pending = some rx -> rx.succeeds = true) :
    Flushes s t where
  pending := hpending
  bytes := by
    refine ⟨[s.buffer], hendpoint, ?_⟩
    rw [hbuffer]
    show s.buffer ++ [] = _
    simp

theorem pollFlush_flushes {s t : RusbAsyncWriter} {submitted : Submission}
    {result : Poll (IoResult Unit)}
    (hsubmitted : Submission.succeeds submitted = true)
    (hflush : s.pollFlush submitted = some (t, result)) : Flushes s t := by
  unfold RusbAsyncWriter.pollFlush at hflush
  cases hpending : s.pending with
  | some rx =>
      rw [hpending] at hflush
      rcases pollFlushInFlight_eq_some hflush with ⟨pending, rfl, hrx⟩
      refine Flushes.of_same rfl rfl ?_
      intro hsucceeds other hother
      rw [hrx other hother]
      exact hsucceeds rx hpending
  | none =>
      rw [hpending] at hflush
      simp only at hflush
      split at hflush
      · cases hflush
        exact Flushes.of_same rfl rfl id
      · cases submitted with
        | error text => cases hsubmitted
        | ok rx =>
            rcases pollFlushInFlight_eq_some hflush with ⟨pending, rfl, hrx⟩
            refine Flushes.of_submitted rfl rfl ?_
            intro _ other hother
            rw [hrx other hother]
            exact hsubmitted

theorem submitEnd_flushes (s : RusbAsyncWriter) :
    Flushes s (s.submitEnd (.ok ()) (.ok ())).fst := by
  rw [submitEnd_ok]
  constructor
  · exact id
  · refine ⟨s.lastTransfer ++ s.zeroLength, List.append_assoc _ _ _, ?_⟩
    rw [List.flatten_append, flatten_lastTransfer, flatten_zeroLength]
    show s.buffer ++ [] = s.buffer ++ [] ++ []
    rw [List.append_nil, List.append_nil]

theorem settle_eq_some {rx : Receiver} (hstep : u.settle rx = some v) :
    u.writer.pending = some .waiting ∧
      v = { u with writer := { u.writer with pending := some rx } } := by
  rcases Machine.of_enabled_if hstep with ⟨hwaiting, hnext⟩
  exact ⟨hwaiting, (Option.some.inj hnext).symm⟩

theorem faultFree_eq_some {a : Action} (hstep : faultFree u a = some v) :
    a.succeeds = true ∧ step u a = some v :=
  Machine.of_enabled_if hstep

theorem pollFlush_eq_some {submitted : Submission}
    (hstep : faultFree u (.pollFlush submitted) = some v) :
    exists writer, Flushes u.writer writer ∧
      v = { u with writer := writer } := by
  rcases faultFree_eq_some hstep with ⟨hsucceeds, hflush⟩
  rcases Option.map_eq_some_iff.mp hflush with ⟨⟨writer, result⟩, hpoll, rfl⟩
  exact ⟨writer, pollFlush_flushes hsucceeds hpoll, rfl⟩

theorem submitEnd_eq_some {flushed ended : Except String Unit}
    (hstep : faultFree u (.submitEnd flushed ended) = some v) :
    exists writer, Flushes u.writer writer ∧
      v = { u with writer := writer } := by
  rcases faultFree_eq_some hstep with ⟨hsucceeds, hend⟩
  rcases Bool.and_eq_true_iff.mp hsucceeds with ⟨hflushed, hended⟩
  cases flushed with
  | error text => cases hflushed
  | ok flushed =>
      cases ended with
      | error text => cases hended
      | ok ended =>
          cases hend
          exact ⟨_, submitEnd_flushes u.writer, rfl⟩

theorem complete_eq_some {result : BulkResult}
    (hstep : faultFree u (.complete result) = some v) :
    (Receiver.ready result).succeeds = true ∧
      v = { u with writer :=
        { u.writer with pending := some (.ready result) } } := by
  rcases faultFree_eq_some hstep with ⟨hsucceeds, hsettle⟩
  exact ⟨hsucceeds, (settle_eq_some hsettle).right⟩

/-!
## What every step keeps
-/

theorem sound_write (hsound : u.Sound) {buf : List UInt8}
    {submitted : Submission} (hsubmitted : Submission.succeeds submitted = true)
    (hwrite : u.write buf submitted = some v) : v.Sound := by
  by_cases hfits : u.Fits buf
  · rw [write_of_fits hfits] at hwrite
    cases hwrite
    exact hsound
  · rcases write_of_not_fits hsound hsubmitted hfits hwrite with
      ⟨rx, hsucceeds, hpending, _⟩
    intro other hother
    cases hpending.symm.trans hother
    exact hsucceeds

theorem sound_step {a : Action} (hsound : u.Sound)
    (hstep : faultFree u a = some v) : v.Sound := by
  cases a with
  | pollWrite buf submitted =>
      rcases faultFree_eq_some hstep with ⟨hsucceeds, hwrite⟩
      exact sound_write hsound hsucceeds hwrite
  | repeatWrite submitted =>
      rcases faultFree_eq_some hstep with ⟨hsucceeds, hrepeat⟩
      rcases Option.bind_eq_some_iff.mp hrepeat with ⟨buf, _, hwrite⟩
      exact sound_write hsound hsucceeds hwrite
  | pollFlush submitted =>
      rcases pollFlush_eq_some hstep with ⟨writer, hflushes, rfl⟩
      exact hflushes.pending hsound
  | submitEnd flushed ended =>
      rcases submitEnd_eq_some hstep with ⟨writer, hflushes, rfl⟩
      exact hflushes.pending hsound
  | complete result =>
      rcases complete_eq_some hstep with ⟨hsucceeds, rfl⟩
      intro rx hrx
      cases hrx
      exact hsucceeds
  | close => cases (faultFree_eq_some hstep).left

/-!
## Writes that fit
-/

structure Invariant (u : WriterUse) : Prop where
  idle : u.outstanding = none
  bytes : u.writer.endpoint.flatten ++ u.writer.buffer = u.reported
  waits : forall rx, rx ∈ u.waits -> rx = some .waiting

theorem Invariant.writesOnce (h : u.Invariant) : u.WritesOnce :=
  ⟨fun _ => h.bytes, h.waits⟩

theorem Invariant.flush (h : u.Invariant) {writer : RusbAsyncWriter}
    (hflushes : Flushes u.writer writer) :
    Invariant { u with writer := writer } where
  idle := h.idle
  bytes := by
    rcases hflushes.bytes with ⟨data, hendpoint, hpasses⟩
    have hconserves := hpasses.conserves h.bytes
    show writer.endpoint.flatten ++ writer.buffer = u.reported
    rw [hendpoint, List.flatten_append]
    exact hconserves.trans (List.append_nil _)
  waits := h.waits

theorem invariant_step {a : Action} (h : u.Invariant)
    (hstep : faultFree u a = some v) (hfit : u.WritesFit a) : v.Invariant := by
  cases a with
  | pollWrite buf submitted =>
      have hwrite := (faultFree_eq_some hstep).right
      change u.write buf submitted = some v at hwrite
      rw [write_of_fits hfit] at hwrite
      cases hwrite
      constructor
      · rfl
      · show _ ++ (u.writer.buffer ++ buf) = u.reported ++ buf
        rw [← List.append_assoc, h.bytes]
      · exact h.waits
  | repeatWrite submitted =>
      rcases Option.bind_eq_some_iff.mp (faultFree_eq_some hstep).right with
        ⟨buf, hbuf, _⟩
      cases h.idle.symm.trans hbuf
  | pollFlush submitted =>
      rcases pollFlush_eq_some hstep with ⟨writer, hflushes, rfl⟩
      exact h.flush hflushes
  | submitEnd flushed ended =>
      rcases submitEnd_eq_some hstep with ⟨writer, hflushes, rfl⟩
      exact h.flush hflushes
  | complete result =>
      rcases complete_eq_some hstep with ⟨_, rfl⟩
      exact ⟨h.idle, h.bytes, h.waits⟩
  | close => cases (faultFree_eq_some hstep).left

theorem invariant_start (maxPacketSize : Nat) :
    (start maxPacketSize).Invariant where
  idle := rfl
  bytes := rfl
  waits := nofun

theorem sound_start (maxPacketSize : Nat) : (start maxPacketSize).Sound :=
  nofun

/-!
## Writes that do not fit
-/

theorem not_writesOnce_of_mem {rx : Receiver} (hne : rx ≠ .waiting)
    (hmem : some rx ∈ u.waits) : ¬ u.WritesOnce := by
  intro h
  exact hne (Option.some.inj (h.waits (some rx) hmem))

theorem repeat_stalls {buf : List UInt8}
    (hpending : u.writer.pending = some .waiting)
    (houtstanding : u.outstanding = some buf) :
    exists later v, (forall a, a ∈ later -> a.Continues) ∧
      Machine.run faultFree u later = some v ∧ ¬ v.WritesOnce := by
  refine ⟨[.complete ⟨0, []⟩, .repeatWrite (.ok .waiting)],
    { u with
      writer := { u.writer with pending := some .finished }
      outstanding := some buf
      waits := u.waits ++ [some .finished] }, ?_, ?_, ?_⟩
  · intro a ha
    rcases List.mem_pair.mp ha with rfl | rfl
    · trivial
    · trivial
  · have hcomplete : faultFree u (.complete ⟨0, []⟩) = some { u with
        writer := { u.writer with pending := some (.ready ⟨0, []⟩) } } :=
      if_pos hpending
    rw [Machine.run_cons_of_step hcomplete]
    refine Machine.run_cons_of_step ?_ []
    show u.outstanding.bind _ = _
    rw [houtstanding]
    rfl
  · have hfinished : Receiver.finished ≠ .waiting := nofun
    apply not_writesOnce_of_mem hfinished
    exact List.mem_append_right _ (List.mem_singleton_self _)

theorem stalls_of_not_fits (hsound : u.Sound) {buf : List UInt8}
    {submitted : Submission}
    (hstep : faultFree u (.pollWrite buf submitted) = some v)
    (hnot : ¬ u.Fits buf) :
    exists later w, (forall a, a ∈ later -> a.Continues) ∧
      Machine.run faultFree v later = some w ∧ ¬ w.WritesOnce := by
  rcases faultFree_eq_some hstep with ⟨hsucceeds, hwrite⟩
  rcases write_of_not_fits hsound hsucceeds hnot hwrite with
    ⟨rx, _, hpending, houtstanding, hwaits⟩
  by_cases hwaiting : rx = .waiting
  · subst hwaiting
    exact repeat_stalls hpending houtstanding
  · refine ⟨[], v, nofun, rfl, ?_⟩
    apply not_writesOnce_of_mem hwaiting
    rw [hwaits]
    exact List.mem_append_right _ (List.mem_singleton_self _)

/--
At no point of a run, whenever transfers are completed and however long an
outstanding write is repeated, a byte is lost or written twice or a write stalls,
exactly if every write of the run finds no transfer in flight and does not fill
the buffer.
-/
theorem writesOnce_iff (maxPacketSize : Nat) (actions : List Action) :
    (forall pre later, pre <+: actions ->
        (forall a, a ∈ later -> a.Continues) ->
        Machine.Throughout faultFree WritesOnce (start maxPacketSize)
          (pre ++ later)) <->
      Machine.Guarded faultFree WritesFit (start maxPacketSize) actions := by
  apply Machine.throughout_extended_iff_guarded (S := Sound) (I := Invariant)
  · intro u a v h hstep
    exact sound_step h hstep
  · intro u a v h _ hstep hfit
    exact invariant_step h hstep hfit
  · intro u h
    exact h.writesOnce
  · intro u a hcontinues
    cases a with
    | pollWrite buf submitted => cases hcontinues
    | repeatWrite submitted => trivial
    | pollFlush submitted => trivial
    | submitEnd flushed ended => trivial
    | complete result => trivial
    | close => trivial
  · intro u a v hsound hstep hnot
    cases a with
    | pollWrite buf submitted => exact stalls_of_not_fits hsound hstep hnot
    | repeatWrite submitted => exact absurd trivial hnot
    | pollFlush submitted => exact absurd trivial hnot
    | submitEnd flushed ended => exact absurd trivial hnot
    | complete result => exact absurd trivial hnot
    | close => exact absurd trivial hnot
  · exact sound_start maxPacketSize
  · exact invariant_start maxPacketSize

/-- A single write fills the buffer. -/
theorem not_writesOnce_fullBuffer :
    ¬ forall (maxPacketSize : Nat) (actions : List Action),
      Machine.Throughout faultFree WritesOnce (start maxPacketSize)
        actions := by
  intro h
  rcases exists_bytes (show 0 < autoFlushLen by decide) with
    ⟨buf, hlength, hbuf⟩
  have hfilled : exists u,
      faultFree (start 512) (.pollWrite buf (.ok .waiting)) = some u ∧
        u.writer.pending = some .waiting ∧ u.outstanding = some buf :=
    ⟨_, write_of_full .waiting rfl hbuf (Nat.le_of_eq hlength.symm), rfl, rfl⟩
  rcases hfilled with ⟨u, hwrite, hpending, houtstanding⟩
  rcases repeat_stalls hpending houtstanding with ⟨later, w, _, hlater, hbad⟩
  exact hbad ((h 512 (_ :: later)).last
    ((Machine.run_cons_of_step hwrite later).trans hlater))

end WriterUse

end UsbBackend
end Rusbmux
