import Rusbmux.Foundation.Conduit
import Rusbmux.Foundation.Machine
import Rusbmux.UsbBackend.BulkTransfer

/-!
# Reading from a bulk endpoint

`RusbAsyncReader` of `usb_backend/rusb/mod.rs`.  A poll hands out what is left of
the last transfer, or looks at the transfer in flight, or submits one and looks
at it at once.  The last two paths are written twice in the source, and only the
first of them asks for the status of the transfer.
-/

namespace Rusbmux
namespace UsbBackend

open Foundation
open Provider (ReadBuf)

structure RusbAsyncReader where
  buffer : List UInt8 := []
  pos : Nat := 0
  pending : Option Receiver := none
deriving DecidableEq, Repr

namespace RusbAsyncReader

def chunkToBuf (s : RusbAsyncReader) (chunk : List UInt8) (buf : ReadBuf) :
    RusbAsyncReader × ReadBuf :=
  let toCopy := min chunk.length buf.remaining
  if toCopy < chunk.length then
    ({ s with buffer := chunk, pos := toCopy }, buf.putSlice (chunk.take toCopy))
  else
    ({ s with buffer := [], pos := 0 }, buf.putSlice (chunk.take toCopy))

/-- The first path: bytes are left of the last transfer. -/
def pollBuffered (s : RusbAsyncReader) (buf : ReadBuf) :
    RusbAsyncReader × ReadBuf :=
  let available := s.buffer.length - s.pos
  let toCopy := min available buf.remaining
  let chunk := (s.buffer.drop s.pos).take toCopy
  let pos := s.pos + toCopy
  if pos = s.buffer.length then
    ({ s with buffer := [], pos := 0 }, buf.putSlice chunk)
  else
    ({ s with pos := pos }, buf.putSlice chunk)

/-- The second path: a transfer is in flight. -/
def pollInFlight (s : RusbAsyncReader) (buf : ReadBuf) (rx : Receiver) :
    Option ((RusbAsyncReader × ReadBuf) × Poll (IoResult Unit)) :=
  match rx.poll with
  | none => none
  | some (.ready (some result)) =>
      if result.status ≠ 0 then
        some (({ s with pending := none }, buf), .ready (.error
          (ioError s!"libusb read: {libusbStatusStr result.status}")))
      else
        some ({ s with pending := none }.chunkToBuf result.data buf,
          .ready (.ok ()))
  | some (.ready none) =>
      some (({ s with pending := none }, buf),
        .ready (.error (ioError "read transfer cancelled")))
  | some .pending => some (({ s with pending := some rx }, buf), .pending)

/-- The third path, once a transfer has been submitted. -/
def pollSubmitted (s : RusbAsyncReader) (buf : ReadBuf) (rx : Receiver) :
    Option ((RusbAsyncReader × ReadBuf) × Poll (IoResult Unit)) :=
  match rx.poll with
  | none => none
  | some (.ready (some result)) =>
      some ({ s with pending := none }.chunkToBuf result.data buf,
        .ready (.ok ()))
  | some (.ready none) =>
      some (({ s with pending := none }, buf),
        .ready (.error (ioError "read transfer cancelled")))
  | some .pending => some (({ s with pending := some rx }, buf), .pending)

def pollRead (s : RusbAsyncReader) (buf : ReadBuf) (submitted : Submission) :
    Option ((RusbAsyncReader × ReadBuf) × Poll (IoResult Unit)) :=
  if s.pos < s.buffer.length then
    some (s.pollBuffered buf, .ready (.ok ()))
  else
    match s.pending with
    | some rx => s.pollInFlight buf rx
    | none =>
        match submitted with
        | .ok rx => s.pollSubmitted buf rx
        | .error text =>
            some ((s, buf), .ready (.error (submissionError text)))

def remainder (s : RusbAsyncReader) : List UInt8 :=
  s.buffer.drop s.pos

def observed (s : RusbAsyncReader) (submitted : Submission) :
    Option BulkResult :=
  if s.pos < s.buffer.length then none
  else
    match s.pending, submitted with
    | some (.ready result), _ => some result
    | none, .ok (.ready result) => some result
    | _, _ => none

end RusbAsyncReader

/-!
## Using a reader
-/

structure ReadPoll where
  room : Nat
  added : List UInt8
  observed : Option BulkResult
  result : Poll (IoResult Unit)
deriving DecidableEq, Repr

namespace ReadPoll

def received (p : ReadPoll) : List UInt8 :=
  match p.observed with
  | some result => if result.status = 0 then result.data else []
  | none => []

/-- An error is returned for an error, and no end of file without one. -/
structure Sound (p : ReadPoll) : Prop where
  failure : forall result, p.observed = some result -> result.status ≠ 0 ->
    exists err, p.result = .ready (.error err)
  progress : p.result = .ready (.ok ()) -> p.added = [] -> p.room = 0

end ReadPoll

structure ReaderUse where
  reader : RusbAsyncReader := {}
  polls : List ReadPoll := []

namespace ReaderUse

inductive Action where
  | pollRead (room : Nat) (submitted : Submission)
  | complete (result : BulkResult)
  | close

def settle (u : ReaderUse) (rx : Receiver) : Option ReaderUse :=
  if u.reader.pending = some .waiting then
    some { u with reader := { u.reader with pending := some rx } }
  else
    none

def step : Machine ReaderUse Action := fun u a =>
  match a with
  | .pollRead room submitted =>
      (u.reader.pollRead { remaining := room } submitted).map
        fun ((reader, buf), result) =>
          { reader := reader
            polls := u.polls ++ [
              { room := room
                added := buf.filled
                observed := u.reader.observed submitted
                result := result }] }
  | .complete result => u.settle (.ready result)
  | .close => u.settle .closed

/--
The bytes handed out and those that are left are the bytes of the transfers, and
every poll has told errors and an empty transfer from the end of the stream.
-/
structure Refines (u : ReaderUse) : Prop where
  bytes : u.polls.flatMap ReadPoll.added ++ u.reader.remainder =
    u.polls.flatMap ReadPoll.received
  sound : forall p, p ∈ u.polls -> p.Sound

/--
A poll that finds a transfer completed has not just submitted it if it failed,
and has no room for a byte if it is empty.
-/
def Delivers (u : ReaderUse) (a : Action) : Prop :=
  match a with
  | .pollRead room submitted => forall result,
      u.reader.observed submitted = some result ->
        (result.status ≠ 0 -> u.reader.pending ≠ none) ∧
        (result.status = 0 -> result.data = [] -> room = 0)
  | .complete _ | .close => True

end ReaderUse

/-!
## What a poll does
-/

namespace RusbAsyncReader

variable {s : RusbAsyncReader} {room : Nat} {submitted : Submission}

theorem remainder_eq_nil (h : ¬ s.pos < s.buffer.length) : s.remainder = [] :=
  List.drop_eq_nil_of_le (Nat.le_of_not_lt h)

theorem remainder_ne_nil (h : s.pos < s.buffer.length) : s.remainder ≠ [] := by
  intro hnil
  have hle := List.drop_eq_nil_iff.mp hnil
  omega

theorem pollBuffered_filled (s : RusbAsyncReader) (room : Nat) :
    (s.pollBuffered { remaining := room }).snd.filled =
      s.remainder.take room := by
  have htaken : (s.pollBuffered { remaining := room }).snd.filled =
      s.remainder.take (min (s.buffer.length - s.pos) room) := by
    unfold pollBuffered
    simp only
    split
    · rfl
    · rfl
  rw [htaken, ← List.length_drop, Nat.min_comm]
  exact List.take_eq_take_min.symm

theorem pollBuffered_remainder (h : s.pos < s.buffer.length) :
    (s.pollBuffered { remaining := room }).fst.remainder =
      s.remainder.drop room := by
  unfold pollBuffered remainder
  simp only
  split
  · rename_i hend
    show [] = _
    rw [List.drop_drop]
    symm
    apply List.drop_eq_nil_of_le
    omega
  · rename_i hmore
    show s.buffer.drop (s.pos + min (s.buffer.length - s.pos) room) = _
    rw [List.drop_drop, Nat.min_eq_right (by omega)]

theorem chunkToBuf_filled (s : RusbAsyncReader) (chunk : List UInt8)
    (room : Nat) :
    (s.chunkToBuf chunk { remaining := room }).snd.filled =
      chunk.take room := by
  have htaken : (s.chunkToBuf chunk { remaining := room }).snd.filled =
      chunk.take (min chunk.length room) := by
    unfold chunkToBuf
    simp only
    split
    · rfl
    · rfl
  rw [htaken, Nat.min_comm]
  exact List.take_eq_take_min.symm

theorem chunkToBuf_remainder (s : RusbAsyncReader) (chunk : List UInt8)
    (room : Nat) :
    (s.chunkToBuf chunk { remaining := room }).fst.remainder =
      chunk.drop room := by
  unfold chunkToBuf remainder
  simp only
  split
  · rename_i hmore
    show chunk.drop (min chunk.length room) = _
    rw [Nat.min_eq_right (by omega)]
  · rename_i hall
    symm
    apply List.drop_eq_nil_of_le
    omega

structure HandsNothing (s : RusbAsyncReader)
    (next : RusbAsyncReader × ReadBuf) : Prop where
  before : s.remainder = []
  filled : next.snd.filled = []
  after : next.fst.remainder = []

structure HandsOut (bytes : List UInt8) (room : Nat)
    (next : RusbAsyncReader × ReadBuf) (result : Poll (IoResult Unit)) :
    Prop where
  filled : next.snd.filled = bytes.take room
  after : next.fst.remainder = bytes.drop room
  result : result = .ready (.ok ())

theorem handsOut_chunkToBuf (s : RusbAsyncReader) (chunk : List UInt8)
    (room : Nat) :
    HandsOut chunk room (s.chunkToBuf chunk { remaining := room })
      (.ready (.ok ())) :=
  ⟨s.chunkToBuf_filled chunk room, s.chunkToBuf_remainder chunk room, rfl⟩

theorem pollRead_cases {next : RusbAsyncReader × ReadBuf}
    {result : Poll (IoResult Unit)}
    (hpoll : s.pollRead { remaining := room } submitted =
      some (next, result)) :
    (s.observed submitted = none ∧ s.remainder ≠ [] ∧
      HandsOut s.remainder room next result) ∨
    (s.observed submitted = none ∧ HandsNothing s next ∧
      result ≠ .ready (.ok ())) ∨
    (exists found, s.observed submitted = some found ∧
      HandsNothing s next ∧ found.status ≠ 0 ∧ s.pending ≠ none ∧
      exists err, result = .ready (.error err)) ∨
    exists found, s.observed submitted = some found ∧ s.remainder = [] ∧
      (found.status = 0 ∨ s.pending = none) ∧
      HandsOut found.data room next result := by
  unfold pollRead at hpoll
  unfold observed
  split at hpoll
  · rename_i hpos
    rw [if_pos hpos]
    cases hpoll
    exact Or.inl ⟨rfl, remainder_ne_nil hpos, s.pollBuffered_filled room,
      pollBuffered_remainder hpos, rfl⟩
  · rename_i hpos
    have hnil := remainder_eq_nil hpos
    have hnothing : forall pending, HandsNothing s
        ({ s with pending := pending }, { remaining := room }) :=
      fun _ => ⟨hnil, rfl, hnil⟩
    rw [if_neg hpos]
    split at hpoll
    · rename_i rx hpending
      rw [hpending]
      cases rx with
      | waiting =>
          cases hpoll
          exact Or.inr (Or.inl ⟨rfl, hnothing _, nofun⟩)
      | closed =>
          cases hpoll
          exact Or.inr (Or.inl ⟨rfl, hnothing _, nofun⟩)
      | finished => cases hpoll
      | ready found =>
          change (if found.status ≠ 0 then _ else _) = some _ at hpoll
          split at hpoll
          · rename_i hstatus
            cases hpoll
            exact Or.inr (Or.inr (Or.inl
              ⟨found, rfl, hnothing _, hstatus, nofun, _, rfl⟩))
          · rename_i hstatus
            cases hpoll
            exact Or.inr (Or.inr (Or.inr ⟨found, rfl, hnil,
              Or.inl (not_not.mp hstatus), handsOut_chunkToBuf _ _ _⟩))
    · rename_i hpending
      rw [hpending]
      cases submitted with
      | error text =>
          cases hpoll
          exact Or.inr (Or.inl ⟨rfl, ⟨hnil, rfl, hnil⟩, nofun⟩)
      | ok rx =>
          cases rx with
          | waiting =>
              cases hpoll
              exact Or.inr (Or.inl ⟨rfl, hnothing _, nofun⟩)
          | closed =>
              cases hpoll
              exact Or.inr (Or.inl ⟨rfl, hnothing _, nofun⟩)
          | finished => cases hpoll
          | ready found =>
              cases hpoll
              exact Or.inr (Or.inr (Or.inr ⟨found, rfl, hnil,
                Or.inr rfl, handsOut_chunkToBuf _ _ _⟩))

end RusbAsyncReader

/-!
## What polls deliver
-/

namespace ReaderUse

open RusbAsyncReader

variable {u v : ReaderUse}

theorem pollRead_eq_some {room : Nat} {submitted : Submission}
    (hstep : step u (.pollRead room submitted) = some v) :
    exists next result,
      u.reader.pollRead { remaining := room } submitted =
        some (next, result) ∧
      v = { reader := next.fst
            polls := u.polls ++ [
              { room := room
                added := next.snd.filled
                observed := u.reader.observed submitted
                result := result }] } := by
  rcases Option.map_eq_some_iff.mp hstep with ⟨⟨next, result⟩, hpoll, rfl⟩
  exact ⟨next, result, hpoll, rfl⟩

theorem settle_eq_some {rx : Receiver} (hstep : u.settle rx = some v) :
    v.polls = u.polls ∧ v.reader.remainder = u.reader.remainder := by
  rcases Machine.of_enabled_if hstep with ⟨_, hnext⟩
  cases hnext
  exact ⟨rfl, rfl⟩

theorem Refines.append (h : u.Refines) {reader : RusbAsyncReader}
    {p : ReadPoll}
    (hpasses : Passes u.reader.remainder p.received p.added reader.remainder)
    (hp : p.Sound) :
    Refines { reader := reader, polls := u.polls ++ [p] } := by
  constructor
  · show (u.polls ++ [p]).flatMap ReadPoll.added ++ reader.remainder =
      (u.polls ++ [p]).flatMap ReadPoll.received
    rw [List.flatMap_append, List.flatMap_append, List.flatMap_singleton,
      List.flatMap_singleton]
    exact hpasses.conserves h.bytes
  · intro q hq
    rcases List.mem_append.mp hq with hold | hnew
    · exact h.sound q hold
    · rw [List.mem_singleton.mp hnew]
      exact hp

theorem refines_pollRead (h : u.Refines) {room : Nat} {submitted : Submission}
    (hstep : step u (.pollRead room submitted) = some v)
    (hdelivers : u.Delivers (.pollRead room submitted)) : v.Refines := by
  rcases pollRead_eq_some hstep with ⟨next, result, hpoll, rfl⟩
  rcases pollRead_cases hpoll with ⟨hobserved, hbytes, hout⟩ |
    ⟨hobserved, hnothing, hresult⟩ |
    ⟨found, hobserved, hnothing, hstatus, _, err, hresult⟩ |
    ⟨found, hobserved, hnil, hchecked, hout⟩
  · rw [hobserved]
    apply h.append
    · rw [hout.filled, hout.after]
      exact Passes.releases _ _
    · constructor
      · exact nofun
      · intro _ hadded
        have hempty : u.reader.remainder.take room = [] :=
          hout.filled.symm.trans hadded
        exact (List.take_eq_nil_iff.mp hempty).resolve_right hbytes
  · rw [hobserved]
    apply h.append
    · rw [hnothing.filled, hnothing.after, hnothing.before]
      exact Passes.idle _
    · constructor
      · exact nofun
      · intro hok
        exact absurd hok hresult
  · rw [hobserved]
    have hreceived : ReadPoll.received
        { room := room
          added := next.snd.filled
          observed := some found
          result := result } = [] := if_neg hstatus
    apply h.append
    · rw [hreceived, hnothing.filled, hnothing.after, hnothing.before]
      exact Passes.idle _
    · constructor
      · intro _ _ _
        exact ⟨err, hresult⟩
      · intro hok
        cases hresult.symm.trans hok
  · rcases hdelivers found hobserved with ⟨hfailed, hempty⟩
    have hstatus : found.status = 0 := by
      by_contra hne
      exact hfailed hne (hchecked.resolve_left hne)
    rw [hobserved]
    have hreceived : ReadPoll.received
        { room := room
          added := next.snd.filled
          observed := some found
          result := result } = found.data := if_pos hstatus
    apply h.append
    · rw [hreceived, hout.filled, hout.after, hnil]
      exact Passes.splits _ _
    · constructor
      · intro result' hfound hne
        cases hfound
        exact absurd hstatus hne
      · intro _ hadded
        have htaken : found.data.take room = [] :=
          hout.filled.symm.trans hadded
        rcases List.take_eq_nil_iff.mp htaken with hroom | hdata
        · exact hroom
        · exact hempty hstatus hdata

theorem refines_step {a : Action} (h : u.Refines) (hstep : step u a = some v)
    (hdelivers : u.Delivers a) : v.Refines := by
  have hsettle : forall {rx : Receiver}, u.settle rx = some v -> v.Refines := by
    intro rx hsettled
    rcases settle_eq_some hsettled with ⟨hpolls, hremainder⟩
    constructor
    · rw [hpolls, hremainder]
      exact h.bytes
    · rw [hpolls]
      exact h.sound
  cases a with
  | pollRead room submitted => exact refines_pollRead h hstep hdelivers
  | complete result => exact hsettle hstep
  | close => exact hsettle hstep

theorem not_refines_of_not_delivers {a : Action} (hstep : step u a = some v)
    (hnot : ¬ u.Delivers a) : ¬ v.Refines := by
  intro hrefines
  cases a with
  | complete result => exact hnot trivial
  | close => exact hnot trivial
  | pollRead room submitted =>
      rcases pollRead_eq_some hstep with ⟨next, result, hpoll, rfl⟩
      have hsound := hrefines.sound _
        (List.mem_append_right _ (List.mem_singleton_self _))
      apply hnot
      intro found hfound
      rcases pollRead_cases hpoll with ⟨hobserved, _⟩ | ⟨hobserved, _⟩ |
        ⟨other, hobserved, _, hstatus, hpending, _⟩ |
        ⟨other, hobserved, _, _, hout⟩
      · cases hfound.symm.trans hobserved
      · cases hfound.symm.trans hobserved
      · cases hfound.symm.trans hobserved
        exact ⟨fun _ => hpending, fun hzero => absurd hzero hstatus⟩
      · cases hfound.symm.trans hobserved
        constructor
        · intro hne
          rcases hsound.failure found hobserved hne with ⟨err, herr⟩
          cases hout.result.symm.trans herr
        · intro _ hdata
          apply hsound.progress hout.result
          show next.snd.filled = []
          rw [hout.filled, hdata, List.take_nil]

theorem refines_init : Refines {} where
  bytes := rfl
  sound := nofun

/--
The reader hands out the stream of the transfers, whenever they complete and
whatever the buffers are, exactly as long as no poll finds the transfer that it
has just submitted failed, or an empty transfer while it has room.
-/
theorem refines_iff (actions : List Action) :
    Machine.Throughout step Refines {} actions <->
      Machine.Guarded step Delivers {} actions := by
  apply Machine.throughout_iff_guarded (J := Refines)
  · intro u h
    exact h
  · intro u a v h hstep hdelivers
    exact refines_step h hstep hdelivers
  · intro u a v _ hstep hnot
    exact not_refines_of_not_delivers hstep hnot
  · exact refines_init

/-- A transfer fails before the poll that submitted it looks at it. -/
theorem not_refines_failedAtOnce :
    ¬ forall actions, Machine.Throughout step Refines {} actions := by
  intro h
  have hrefines := (h [.pollRead 8 (.ok (.ready ⟨1, []⟩))]).last rfl
  have hsound := hrefines.sound _ (List.mem_singleton_self _)
  rcases hsound.failure ⟨1, []⟩ rfl (by decide) with ⟨err, herr⟩
  cases herr

end ReaderUse

end UsbBackend
end Rusbmux
