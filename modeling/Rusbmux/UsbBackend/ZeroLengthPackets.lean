import Mathlib.Data.List.Infix
import Rusbmux.UsbBackend.BulkWriter

/-!
# The end of a packet

The device sees the end of a packet in a transfer that does not fill its last
USB packet, so a packet that does is ended by a transfer without bytes.  The
writer counts the bytes of the transfers as it submits them, but a write that
fills the buffer only counts its own bytes, not those that it found there.
-/

namespace Rusbmux
namespace UsbBackend

open Foundation

namespace RusbAsyncWriter

def submittedLen (s : RusbAsyncWriter) : Nat :=
  s.endpoint.flatten.length

def leftBehind (s : RusbAsyncWriter) (buf : List UInt8)
    (submitted : Submission) : Nat :=
  if s.pending = none ∧ buf ≠ [] ∧
      autoFlushLen <= s.buffer.length + buf.length ∧ submitted.isOk = true then
    s.buffer.length
  else
    0

def newTransfers (s t : RusbAsyncWriter) : List (List UInt8) :=
  t.endpoint.drop s.endpoint.length

def newBytes (s t : RusbAsyncWriter) : Nat :=
  (s.newTransfers t).flatten.length

theorem newTransfers_append {s t : RusbAsyncWriter}
    {transfers : List (List UInt8)}
    (hendpoint : t.endpoint = s.endpoint ++ transfers) :
    s.newTransfers t = transfers := by
  unfold newTransfers
  rw [hendpoint, List.drop_left]

theorem submittedLen_add_newBytes {s t : RusbAsyncWriter}
    (hmore : s.endpoint <+: t.endpoint) :
    s.submittedLen + s.newBytes t = t.submittedLen := by
  rcases hmore with ⟨transfers, hendpoint⟩
  unfold newBytes submittedLen
  rw [newTransfers_append hendpoint.symm, ← hendpoint, List.flatten_append,
    List.length_append]

structure Counted (s : RusbAsyncWriter) (behind : Nat) (t : RusbAsyncWriter) :
    Prop where
  counted : t.currentTransferLen + behind + s.submittedLen =
    s.currentTransferLen + t.submittedLen
  grows : s.currentTransferLen <= t.currentTransferLen
  own : 0 < behind -> s.currentTransferLen < t.currentTransferLen
  endpoint : s.endpoint <+: t.endpoint
  maxPacketSize : t.maxPacketSize = s.maxPacketSize

namespace Counted

variable {s t u : RusbAsyncWriter} {m n : Nat}

theorem of_same (hcounted : t.currentTransferLen = s.currentTransferLen)
    (hendpoint : t.endpoint = s.endpoint)
    (hsize : t.maxPacketSize = s.maxPacketSize) : Counted s 0 t where
  counted := by
    unfold submittedLen
    rw [hcounted, hendpoint, Nat.add_zero]
  grows := Nat.le_of_eq hcounted.symm
  own := nofun
  endpoint := by
    rw [hendpoint]
  maxPacketSize := hsize

theorem refl (s : RusbAsyncWriter) : Counted s 0 s :=
  of_same rfl rfl rfl

theorem trans (h : Counted s m t) (h' : Counted t n u) :
    Counted s (m + n) u where
  counted := by
    have hfirst := h.counted
    have hsecond := h'.counted
    omega
  grows := Nat.le_trans h.grows h'.grows
  own := by
    intro hpos
    rcases Nat.add_pos_iff_pos_or_pos.mp hpos with hm | hn
    · exact Nat.lt_of_lt_of_le (h.own hm) h'.grows
    · exact Nat.lt_of_le_of_lt h.grows (h'.own hn)
  endpoint := h.endpoint.trans h'.endpoint
  maxPacketSize := h'.maxPacketSize.trans h.maxPacketSize

end Counted

theorem Counted.of_submitted {s t : RusbAsyncWriter} {data : List UInt8}
    {behind : Nat} (hendpoint : t.endpoint = s.endpoint ++ [data])
    (hcounted : t.currentTransferLen + behind =
      s.currentTransferLen + data.length)
    (hgrows : s.currentTransferLen < t.currentTransferLen)
    (hsize : t.maxPacketSize = s.maxPacketSize) : Counted s behind t where
  counted := by
    have hsubmitted : t.submittedLen = s.submittedLen + data.length := by
      unfold submittedLen
      rw [hendpoint, List.flatten_append, List.length_append,
        List.flatten_singleton]
    omega
  grows := Nat.le_of_lt hgrows
  own := fun _ => hgrows
  endpoint := by
    rw [hendpoint]
    exact List.prefix_append _ _
  maxPacketSize := hsize

theorem leftBehind_of_pending {s : RusbAsyncWriter} {rx : Receiver}
    (hpending : s.pending = some rx) (buf : List UInt8)
    (submitted : Submission) : s.leftBehind buf submitted = 0 := by
  unfold leftBehind
  rw [if_neg]
  intro h
  cases hpending.symm.trans h.left

theorem pollWrite_counted {s t : RusbAsyncWriter} {buf : List UInt8}
    {submitted : Submission} {result : Poll (IoResult Nat)}
    (hwrite : s.pollWrite buf submitted = some (t, result)) :
    Counted s (s.leftBehind buf submitted) t := by
  unfold pollWrite at hwrite
  cases hpending : s.pending with
  | some rx =>
      rw [hpending] at hwrite
      rw [leftBehind_of_pending hpending]
      cases rx with
      | waiting =>
          cases hwrite
          exact Counted.refl s
      | closed =>
          cases hwrite
          exact Counted.of_same rfl rfl rfl
      | finished => cases hwrite
      | ready found =>
          unfold pollWriteInFlight Receiver.poll at hwrite
          simp only at hwrite
          split at hwrite
          · cases hwrite
            exact Counted.of_same rfl rfl rfl
          · cases hwrite
            exact Counted.of_same rfl rfl rfl
  | none =>
      rw [hpending] at hwrite
      simp only at hwrite
      unfold leftBehind
      split at hwrite
      · rename_i hempty
        cases hwrite
        rw [if_neg fun h => h.right.left (List.isEmpty_iff.mp hempty)]
        exact Counted.refl s
      · rename_i hsome
        have hbuf : buf ≠ [] := fun hnil => hsome (List.isEmpty_iff.mpr hnil)
        rw [List.length_append] at hwrite
        split at hwrite
        · rename_i hfull
          cases submitted with
          | error text =>
              cases hwrite
              rw [if_neg fun h => Bool.false_ne_true h.right.right.right]
              exact Counted.of_same rfl rfl rfl
          | ok rx =>
              cases hwrite
              rw [if_pos ⟨hpending, hbuf, hfull, rfl⟩]
              have hpos := List.length_pos_iff.mpr hbuf
              apply Counted.of_submitted
              · rfl
              · rw [List.length_append]
                show s.currentTransferLen + buf.length + _ = _
                omega
              · exact Nat.lt_add_of_pos_right hpos
              · rfl
        · rename_i hshort
          cases hwrite
          rw [if_neg fun h => hshort h.right.right.left]
          exact Counted.of_same rfl rfl rfl

theorem pollFlushInFlight_counted {s t : RusbAsyncWriter} {rx : Receiver}
    {result : Poll (IoResult Unit)}
    (hflush : s.pollFlushInFlight rx = some (t, result)) : Counted s 0 t := by
  rcases pollFlushInFlight_eq_some hflush with ⟨pending, rfl, _⟩
  exact Counted.of_same rfl rfl rfl

theorem pollFlush_counted {s t : RusbAsyncWriter} {submitted : Submission}
    {result : Poll (IoResult Unit)}
    (hflush : s.pollFlush submitted = some (t, result)) : Counted s 0 t := by
  unfold pollFlush at hflush
  cases hpending : s.pending with
  | some rx =>
      rw [hpending] at hflush
      exact pollFlushInFlight_counted hflush
  | none =>
      rw [hpending] at hflush
      simp only at hflush
      split at hflush
      · cases hflush
        exact Counted.refl s
      · rename_i hsome
        cases submitted with
        | error text =>
            cases hflush
            exact Counted.of_same rfl rfl rfl
        | ok rx =>
            have hsubmitted : Counted s 0 { s with
                buffer := []
                currentTransferLen := s.currentTransferLen + s.buffer.length
                endpoint := s.endpoint ++ [s.buffer] } := by
              apply Counted.of_submitted
              · rfl
              · rfl
              · apply Nat.lt_add_of_pos_right
                exact List.length_pos_iff.mpr (by simpa using hsome)
              · rfl
            exact hsubmitted.trans (pollFlushInFlight_counted hflush)

/-!
## The second end of a packet
-/

theorem submitEnd_eq_of_ok {s : RusbAsyncWriter}
    {flushed ended : Except String Unit}
    (hok : (s.submitEnd flushed ended).snd = .ok ()) :
    s.submitEnd flushed ended = s.submitEnd (.ok ()) (.ok ()) := by
  have hflushed : s.syncFlush flushed = s.syncFlush (.ok ()) := by
    cases flushed with
    | ok flushed => rfl
    | error text =>
        unfold syncFlush
        split
        · rfl
        · rename_i hsome
          unfold submitEnd syncFlushAndZlp syncFlush at hok
          rw [if_neg hsome] at hok
          cases hok
  have hended : forall t, s.syncFlush (.ok ()) = (t, .ok ()) ->
      t.zlp ended = t.zlp (.ok ()) := by
    intro t ht
    cases ended with
    | ok ended => rfl
    | error text =>
        unfold zlp
        split
        · rename_i hmultiple
          unfold submitEnd syncFlushAndZlp zlp at hok
          rw [hflushed, ht] at hok
          simp only [if_pos hmultiple] at hok
          cases hok
        · rfl
  unfold submitEnd syncFlushAndZlp
  rw [hflushed, syncFlush_ok]
  simp only [hended _ (syncFlush_ok s)]

theorem endpoint_of_submitEnd_ok {s : RusbAsyncWriter}
    {flushed ended : Except String Unit}
    (hok : (s.submitEnd flushed ended).snd = .ok ()) :
    (s.submitEnd flushed ended).fst.endpoint =
      s.endpoint ++ (s.lastTransfer ++ s.zeroLength) := by
  rw [submitEnd_eq_of_ok hok, submitEnd_ok, ← List.append_assoc]

theorem currentTransferLen_of_submitEnd_ok {s : RusbAsyncWriter}
    {flushed ended : Except String Unit}
    (hok : (s.submitEnd flushed ended).snd = .ok ()) :
    (s.submitEnd flushed ended).fst.currentTransferLen = 0 := by
  rw [submitEnd_eq_of_ok hok, submitEnd_ok]

theorem newBytes_of_submitEnd {s t last : RusbAsyncWriter}
    (hmore : s.endpoint <+: t.endpoint)
    (hendpoint : last.endpoint =
      t.endpoint ++ (t.lastTransfer ++ t.zeroLength)) :
    s.submittedLen + s.newBytes last = t.submittedLen + t.buffer.length := by
  rw [submittedLen_add_newBytes]
  · unfold submittedLen
    rw [hendpoint, List.flatten_append, List.flatten_append,
      flatten_lastTransfer, flatten_zeroLength, List.append_nil,
      List.length_append]
  · rw [hendpoint]
    exact hmore.trans (List.prefix_append _ _)

theorem nil_not_mem_lastTransfer (s : RusbAsyncWriter) :
    [] ∉ s.lastTransfer := by
  unfold lastTransfer
  split
  · exact List.not_mem_nil
  · rename_i hsome
    rw [List.mem_singleton]
    intro hnil
    exact hsome (List.isEmpty_iff.mpr hnil.symm)

theorem nil_mem_zeroLength (s : RusbAsyncWriter) :
    [] ∈ s.zeroLength <->
      0 < s.currentTransferLen + s.buffer.length ∧
        s.maxPacketSize ∣ s.currentTransferLen + s.buffer.length := by
  unfold zeroLength
  rw [Nat.dvd_iff_mod_eq_zero]
  split
  · rename_i hmultiple
    simp only [hmultiple, List.mem_singleton, and_self]
  · rename_i hother
    simp only [hother, List.not_mem_nil]

end RusbAsyncWriter

namespace WriterUse

open RusbAsyncWriter

variable {u v : WriterUse}

def Action.endsPacket : Action -> Bool
  | .submitEnd _ _ => true
  | _ => false

def midPacket : Machine WriterUse Action := fun u a =>
  if a.endsPacket then none else step u a

def leftBehind (u : WriterUse) : Action -> Nat
  | .pollWrite buf submitted => u.writer.leftBehind buf submitted
  | .repeatWrite submitted =>
      u.outstanding.elim 0 fun buf => u.writer.leftBehind buf submitted
  | _ => 0

theorem write_counted {buf : List UInt8} {submitted : Submission}
    (hwrite : u.write buf submitted = some v) :
    Counted u.writer (u.writer.leftBehind buf submitted) v.writer := by
  rcases Option.map_eq_some_iff.mp hwrite with ⟨⟨writer, result⟩, hpoll, rfl⟩
  have hcounted := pollWrite_counted hpoll
  cases result with
  | pending => exact hcounted
  | ready found =>
      cases found with
      | ok n => exact hcounted
      | error err => exact hcounted

theorem settle_counted {rx : Receiver} (hsettle : u.settle rx = some v) :
    Counted u.writer 0 v.writer := by
  rcases Machine.of_enabled_if hsettle with ⟨_, hnext⟩
  cases hnext
  exact Counted.of_same rfl rfl rfl

theorem midPacket_counted {a : Action} (hstep : midPacket u a = some v) :
    Counted u.writer (u.leftBehind a) v.writer := by
  rcases Machine.of_disabled_if hstep with ⟨hmiddle, hnext⟩
  cases a with
  | pollWrite buf submitted => exact write_counted hnext
  | repeatWrite submitted =>
      rcases Option.bind_eq_some_iff.mp hnext with ⟨buf, hbuf, hwrite⟩
      unfold leftBehind
      rw [hbuf]
      exact write_counted hwrite
  | pollFlush submitted =>
      rcases Option.map_eq_some_iff.mp hnext with ⟨⟨writer, result⟩, hpoll, rfl⟩
      exact pollFlush_counted hpoll
  | submitEnd flushed ended => exact absurd rfl hmiddle
  | complete result => exact settle_counted hnext
  | close => exact settle_counted hnext

theorem midPacket_run_counted {actions : List Action}
    (hrun : Machine.run midPacket u actions = some v) :
    Counted u.writer (Machine.total midPacket leftBehind u actions) v.writer := by
  apply Machine.run_relates (R := fun u n v => Counted u.writer n v.writer) _ _ _
    hrun
  · intro u
    exact Counted.refl u.writer
  · intro u v w m n h h'
    exact h.trans h'
  · intro u a v hstep
    exact midPacket_counted hstep

/-!
## The rule for zero-length packets
-/

/--
Between the states after the first and after the second end of a packet, the
second of which is made in `u`.
-/
def ZeroLengthRule (first u last : RusbAsyncWriter) : Prop :=
  [] ∈ u.newTransfers last <->
    0 < first.newBytes last ∧ u.maxPacketSize ∣ first.newBytes last

/--
The count has `before` from an earlier packet and lacks `behind` of the `total`
bytes that are submitted, and calls for an empty transfer just as `total` does.
-/
def CountsRight (size before behind total : Nat) : Prop :=
  if total = 0 then ¬ (0 < before ∧ size ∣ before)
  else
    (size : Int) ∣ before - behind ∨
      (¬ size ∣ total ∧ ¬ size ∣ before + total - behind)

theorem countsRight_iff {size before behind total counted : Nat}
    (hcounted : counted + behind = before + total)
    (hgrows : before <= counted)
    (hown : 0 < behind -> before < counted) :
    CountsRight size before behind total <->
      (0 < counted ∧ size ∣ counted <-> 0 < total ∧ size ∣ total) := by
  have hdifference : before + total - behind = counted := by omega
  unfold CountsRight
  rw [hdifference]
  split
  · rename_i hnone
    have hequal : counted = before := by omega
    rw [hequal, hnone]
    simp
  · rename_i hsome
    have htotal : 0 < total := Nat.pos_of_ne_zero hsome
    have hpos : 0 < counted := by omega
    have hshift : (counted : Int) = total + (before - behind) := by omega
    have hdvd : (size : Int) ∣ before - behind ->
        (size ∣ counted <-> size ∣ total) := by
      intro h
      rw [← Int.natCast_dvd_natCast, ← Int.natCast_dvd_natCast, hshift]
      exact Int.dvd_add_left h
    simp only [htotal, hpos, true_and]
    constructor
    · rintro (h | ⟨hother, hnot⟩)
      · exact hdvd h
      · exact ⟨fun h => absurd h hnot, fun h => absurd h hother⟩
    · intro h
      by_cases htotal : size ∣ total
      · left
        have hboth := Int.natCast_dvd_natCast.mpr (h.mpr htotal)
        rw [hshift] at hboth
        exact (Int.dvd_add_right (Int.natCast_dvd_natCast.mpr htotal)).mp hboth
      · exact Or.inr ⟨htotal, fun hcount => htotal (h.mp hcount)⟩

/--
Between two calls of `submit_end` that find the writer `s` and `t`, the second
sends an empty transfer exactly if the bytes submitted since the first fill their
last USB packet, as long as the writer has counted them right.  It starts to count
at zero if the first call has returned `Ok`.
-/
theorem zeroLengthRule_iff {s : RusbAsyncWriter} {u v : WriterUse}
    {flushed ended flushed' ended' : Except String Unit} {actions : List Action}
    (hfirst : (s.submitEnd flushed ended).fst = u.writer)
    (hrun : Machine.run midPacket u actions = some v)
    (hok : (v.writer.submitEnd flushed' ended').snd = .ok ()) :
    ((s.submitEnd flushed ended).snd = .ok () ->
        u.writer.currentTransferLen = 0) ∧
      (ZeroLengthRule u.writer v.writer
          (v.writer.submitEnd flushed' ended').fst <->
        CountsRight v.writer.maxPacketSize u.writer.currentTransferLen
          (Machine.total midPacket leftBehind u actions)
          (u.writer.newBytes (v.writer.submitEnd flushed' ended').fst)) := by
  constructor
  · intro hstarts
    rw [← hfirst]
    exact currentTransferLen_of_submitEnd_ok hstarts
  · have hcounted := midPacket_run_counted hrun
    have hendpoint := endpoint_of_submitEnd_ok hok
    have hsubmitted := newBytes_of_submitEnd hcounted.endpoint hendpoint
    have htotal : v.writer.currentTransferLen + v.writer.buffer.length +
        Machine.total midPacket leftBehind u actions =
          u.writer.currentTransferLen +
            u.writer.newBytes (v.writer.submitEnd flushed' ended').fst := by
      have hequal := hcounted.counted
      omega
    rw [countsRight_iff htotal]
    · unfold ZeroLengthRule
      rw [newTransfers_append hendpoint, List.mem_append, nil_mem_zeroLength]
      simp only [nil_not_mem_lastTransfer, false_or]
    · exact Nat.le_trans hcounted.grows (Nat.le_add_right _ _)
    · intro hbehind
      exact Nat.lt_of_lt_of_le (hcounted.own hbehind) (Nat.le_add_right _ _)

/-- A packet of two bytes that fills its only USB packet. -/
theorem zeroLengthRule_iff_twoBytes :
    ZeroLengthRule (start 2).writer
        { maxPacketSize := 2, buffer := [1, 2] }
        { maxPacketSize := 2, endpoint := [[1, 2], []] } <->
      CountsRight 2 0 0 2 := by
  have hfirst : ((start 2).writer.submitEnd (.ok ()) (.ok ())).fst =
      (start 2).writer := rfl
  have hrun : Machine.run midPacket (start 2)
      [.pollWrite [1, 2] (.ok .waiting)] = some
        { writer := { maxPacketSize := 2, buffer := [1, 2] }
          reported := [1, 2] } := rfl
  have hok : (RusbAsyncWriter.submitEnd
      { maxPacketSize := 2, buffer := [1, 2] } (.ok ()) (.ok ())).snd =
        .ok () := rfl
  exact (zeroLengthRule_iff hfirst hrun hok).right

theorem exists_filled :
    exists actions v, Machine.run midPacket (start 512) actions = some v ∧
      v.writer.maxPacketSize = 512 ∧ v.writer.currentTransferLen = 98303 ∧
      v.writer.buffer = [] ∧ v.writer.submittedLen = 98304 := by
  rcases exists_bytes (show 0 < 98303 by decide) with ⟨buf, hlength, hbuf⟩
  have hfull : autoFlushLen <= ([1] ++ buf).length := by
    rw [List.length_append, hlength]
    decide
  refine ⟨[.pollWrite [1] (.ok .waiting), .pollWrite buf (.ok .waiting)], {
    writer :=
      { maxPacketSize := 512
        currentTransferLen := 0 + buf.length
        pending := some .waiting
        endpoint := [[1] ++ buf] }
    outstanding := some buf
    reported := [1]
    waits := [some .waiting] }, ?_, rfl, ?_, rfl, ?_⟩
  · have hfirst : midPacket (start 512) (.pollWrite [1] (.ok .waiting)) = some {
        writer := { maxPacketSize := 512, buffer := [1] }
        reported := [1] } := rfl
    rw [Machine.run_cons_of_step hfirst]
    exact Machine.run_cons_of_step (write_of_full .waiting rfl hbuf hfull) []
  · rw [hlength]
  · unfold submittedLen
    rw [List.flatten_singleton, List.length_append, hlength]
    rfl

/-- The packet of 98304 bytes is not ended by an empty transfer. -/
theorem not_zeroLengthRule_fullBuffer :
    ¬ forall (s : RusbAsyncWriter) (u v : WriterUse)
      (flushed ended flushed' ended' : Except String Unit)
      (actions : List Action), 0 < s.maxPacketSize ->
        (s.submitEnd flushed ended).fst = u.writer ->
        (s.submitEnd flushed ended).snd = .ok () ->
        Machine.run midPacket u actions = some v ->
        (v.writer.submitEnd flushed' ended').snd = .ok () ->
        ZeroLengthRule u.writer v.writer
          (v.writer.submitEnd flushed' ended').fst := by
  intro h
  rcases exists_filled with ⟨actions, v, hrun, hsize, hcount, hbuffer, hlen⟩
  have hok : (v.writer.submitEnd (.ok ()) (.ok ())).snd = .ok () := by
    rw [submitEnd_ok]
  have hendpoint := endpoint_of_submitEnd_ok hok
  have hbytes := newBytes_of_submitEnd (s := (start 512).writer)
    (List.nil_prefix) hendpoint
  have hrule := h { maxPacketSize := 512 } (start 512) v (.ok ()) (.ok ())
    (.ok ()) (.ok ()) actions (by decide) rfl rfl hrun hok
  unfold ZeroLengthRule at hrule
  rw [newTransfers_append hendpoint, List.mem_append, nil_mem_zeroLength,
    hsize, hcount, hbuffer] at hrule
  rw [hlen, hbuffer] at hbytes
  change 0 + _ = 98304 + 0 at hbytes
  rw [Nat.zero_add] at hbytes
  rw [hbytes] at hrule
  rcases hrule.mpr (by decide) with hmem | ⟨_, hdvd⟩
  · exact nil_not_mem_lastTransfer _ hmem
  · exact absurd hdvd (by decide)

end WriterUse

end UsbBackend
end Rusbmux
