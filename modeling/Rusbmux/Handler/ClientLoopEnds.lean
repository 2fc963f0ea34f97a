import Rusbmux.Handler.ClientLoop
import Rusbmux.Handler.Handlers

/-!
# The end of the client loop

`handle_client` with the handlers as it sees them: each is given a packet, may
take bytes off the stream of the client, and returns.  The loop goes on after a
read that fails, unless the error is one of three kinds, so it never ends for a
client that is gone in any other way, unless a handler ends it first.
-/

namespace Rusbmux
namespace Handler

open Foundation
open Rusbmux.Parser

def isDisconnectIo (err : IoError) : Bool :=
  err.kind = .connectionReset || err.kind = .connectionAborted ||
    err.kind = .brokenPipe || err.kind = .unexpectedEof

def isDisconnect : RusbmuxError -> Bool
  | .io err => isDisconnectIo err
  | _ => false

def goesOnAfter : Except HandlerError ControlFlow -> Bool
  | .ok .continue => true
  | .ok .break => false
  | .error err => !err.fatal && !isDisconnect err.err

structure Handled where
  result : Except HandlerError ControlFlow
  taken : Nat := 0

/-- The handlers by the packets that were handled before; all of them return. -/
abbrev MessageHandler : Type :=
  Nat -> UsbMuxPacket -> Handled

inductive ClientLoop where
  | reading (handled : Nat) (rest : List UInt8)
  | ended
deriving DecidableEq, Repr

namespace ClientLoop

section

variable (F : Plist.Format) (ending : IoError) (handle : MessageHandler)

def afterRead (n : Nat) : Outcome ParseError UsbMuxPacket -> ClientLoop
  | .ok packet rest =>
      let handled := handle n packet
      if goesOnAfter handled.result then
        reading (n + 1) (rest.drop handled.taken)
      else
        ended
  | .error err rest => if readsOnAfter err then reading n rest else ended
  | .panicked => ended

/-- A round of the loop, on a stream that ends with an error. -/
def round : ClientLoop -> ClientLoop
  | reading n s => afterRead handle n ((UsbMuxPacket.fromReader F ending).run s)
  | ended => ended

def Terminates (stream : List UInt8) : Prop :=
  exists n, (round F ending handle)^[n] (reading 0 stream) = ended

/--
The packets that the bytes of a client deliver, with their numbers: what is
refused is passed over, and a handler that goes on may take bytes away.
-/
inductive Delivers : Nat -> List UInt8 -> Nat -> UsbMuxPacket -> Prop where
  | first {n : Nat} {s rest : List UInt8} {packet : UsbMuxPacket}
      (hread : (UsbMuxPacket.fromReader F ending).run s = .ok packet rest) :
      Delivers n s n packet
  | later {n m : Nat} {s rest : List UInt8} {packet other : UsbMuxPacket}
      (hread : (UsbMuxPacket.fromReader F ending).run s = .ok packet rest)
      (hgoesOn : goesOnAfter (handle n packet).result = true)
      (hlater : Delivers (n + 1) (rest.drop (handle n packet).taken) m other) :
      Delivers n s m other
  | refused {n m : Nat} {s rest : List UInt8} {e : ParseError}
      {other : UsbMuxPacket}
      (hread : (UsbMuxPacket.fromReader F ending).run s = .error e rest)
      (he : e.isIo = false) (hlater : Delivers n rest m other) :
      Delivers n s m other

/-- One of the packets of a client is the last for its handler. -/
def HandlerEnds (stream : List UInt8) : Prop :=
  exists n packet, Delivers F ending handle 0 stream n packet ∧
    goesOnAfter (handle n packet).result = false

end

/-!
## What a read leaves
-/

inductive Progress {value : Type} (ending : IoError) (s : List UInt8) :
    Outcome ParseError value -> Prop where
  | ok {v : value} {rest : List UInt8} (h : rest.length < s.length) :
      Progress ending s (.ok v rest)
  | refused {e : ParseError} {rest : List UInt8} (he : e.isIo = false)
      (h : rest.length < s.length) : Progress ending s (.error e rest)
  | exhausted : Progress ending s (.error (.io ending) [])

theorem readPayload_progress (F : Plist.Format) (ending : IoError)
    (header : UsbMuxHeader) {s rest : List UInt8}
    (hrest : rest.length < s.length) :
    Progress ending s ((UsbMuxPacket.readPayload F ending header).run rest) := by
  unfold UsbMuxPacket.readPayload
  split
  · exact .refused rfl hrest
  · by_cases hlen : header.len.toNat - UsbMuxHeader.size <= rest.length
    · rw [Reader.run_bind_of_ok (Reader.run_readExact_of_le _ hlen)]
      have hdrop : (rest.drop (header.len.toNat - UsbMuxHeader.size)).length <
          s.length := by
        rw [List.length_drop]
        exact Nat.lt_of_le_of_lt (Nat.sub_le _ _) hrest
      cases hdecode : UsbMuxPayload.decode F
          (rest.take (header.len.toNat - UsbMuxHeader.size)) header.version with
      | ok payload => exact .ok hdrop
      | error err =>
          exact .refused (UsbMuxPayload.decode_error_isIo F hdecode) hdrop
    · rw [Reader.run_bind_of_error
        (Reader.run_readExact_of_lt _ (Nat.lt_of_not_le hlen))]
      exact .exhausted

theorem fromReader_progress (F : Plist.Format) (ending : IoError)
    (s : List UInt8) :
    Progress ending s ((UsbMuxPacket.fromReader F ending).run s) := by
  unfold UsbMuxPacket.fromReader
  by_cases hlen : UsbMuxHeader.size <= s.length
  · have hdrop : (s.drop UsbMuxHeader.size).length < s.length := by
      rw [List.length_drop]
      change 16 <= s.length at hlen
      exact Nat.sub_lt (Nat.lt_of_lt_of_le (by decide) hlen) (by decide)
    cases hversion : clientVersion s with
    | none =>
        rcases UsbMuxHeader.fromReader_of_unknown ending hlen
          (Or.inl hversion) with ⟨e, he, hrun⟩
        rw [Reader.run_bind_of_error hrun]
        exact .refused he hdrop
    | some version =>
        cases hmsgType : clientMsgType s with
        | none =>
            rcases UsbMuxHeader.fromReader_of_unknown ending hlen
              (Or.inr hmsgType) with ⟨e, he, hrun⟩
            rw [Reader.run_bind_of_error hrun]
            exact .refused he hdrop
        | some msgType =>
            rw [Reader.run_bind_of_ok (UsbMuxHeader.fromReader_of_known ending
              hlen hversion hmsgType)]
            have hpayload := readPayload_progress F ending
              (clientHeader s version msgType) hdrop
            cases hread : (UsbMuxPacket.readPayload F ending
                (clientHeader s version msgType)).run
                  (s.drop UsbMuxHeader.size) with
            | ok payload rest =>
                rw [hread] at hpayload
                rw [Reader.run_bind_of_ok hread]
                cases hpayload with
                | ok h => exact .ok h
            | error e rest =>
                rw [hread] at hpayload
                rw [Reader.run_bind_of_error hread]
                cases hpayload with
                | refused he h => exact .refused he h
                | exhausted => exact .exhausted
            | panicked =>
                rw [hread] at hpayload
                cases hpayload
  · have hheader : (UsbMuxHeader.fromReader ending).run s =
        .error (.io ending) [] := by
      unfold UsbMuxHeader.fromReader
      exact Reader.run_bind_of_error
        (Reader.run_readExact_of_lt _ (Nat.lt_of_not_le hlen)) _
    rw [Reader.run_bind_of_error hheader]
    exact .exhausted

/-!
## Rounds
-/

section

variable {F : Plist.Format} {ending : IoError} {handle : MessageHandler}

theorem readsOnAfter_of_isIo_eq_false {e : ParseError} (he : e.isIo = false) :
    readsOnAfter e = true :=
  readsOnAfter_of_not_isIo e (by rw [he]; rfl)

theorem readsOnAfter_eq_false_iff :
    readsOnAfter (.io ending) = false <->
      ending.kind = .unexpectedEof ∨ ending.kind = .connectionReset ∨
        ending.kind = .brokenPipe := by
  unfold readsOnAfter
  simp only [Bool.not_eq_false', Bool.or_eq_true, decide_eq_true_eq, or_assoc]

variable (F ending handle) in
theorem round_cases (n : Nat) (s : List UInt8) :
    (exists packet rest,
        (UsbMuxPacket.fromReader F ending).run s = .ok packet rest ∧
        rest.length < s.length ∧
        round F ending handle (reading n s) =
          if goesOnAfter (handle n packet).result then
            reading (n + 1) (rest.drop (handle n packet).taken)
          else
            ended) ∨
      (exists e rest,
        (UsbMuxPacket.fromReader F ending).run s = .error e rest ∧
        e.isIo = false ∧ rest.length < s.length ∧
        round F ending handle (reading n s) = reading n rest) ∨
      round F ending handle (reading n s) =
        if readsOnAfter (.io ending) then reading n [] else ended := by
  have hprogress := fromReader_progress F ending s
  unfold round
  simp only
  cases hread : (UsbMuxPacket.fromReader F ending).run s with
  | ok packet rest =>
      rw [hread] at hprogress
      cases hprogress with
      | ok h => exact Or.inl ⟨packet, rest, rfl, h, rfl⟩
  | error e rest =>
      rw [hread] at hprogress
      cases hprogress with
      | refused he h =>
          right
          left
          exact ⟨e, rest, rfl, he, h,
            if_pos (readsOnAfter_of_isIo_eq_false he)⟩
      | exhausted => exact Or.inr (Or.inr rfl)
  | panicked =>
      rw [hread] at hprogress
      cases hprogress

def size : ClientLoop -> Nat
  | reading _ s => s.length
  | ended => 0

theorem terminates_of_ending (hending : readsOnAfter (.io ending) = false)
    (stream : List UInt8) : Terminates F ending handle stream := by
  apply exists_iterate_of_decreasing (fun state => state = ended) size
  intro state hreading
  cases state with
  | ended => exact absurd rfl hreading
  | reading n s =>
      rcases round_cases F ending handle n s with
        ⟨packet, rest, _, hshorter, hround⟩ |
        ⟨e, rest, _, _, hshorter, hround⟩ | hround
      · rw [hround]
        split
        · right
          show (rest.drop _).length < s.length
          rw [List.length_drop]
          exact Nat.lt_of_le_of_lt (Nat.sub_le _ _) hshorter
        · exact Or.inl rfl
      · rw [hround]
        exact Or.inr hshorter
      · rw [hround, hending]
        exact Or.inl rfl

theorem exists_iterate_of_delivers {n m : Nat} {s : List UInt8}
    {packet : UsbMuxPacket} (h : Delivers F ending handle n s m packet)
    (hlast : goesOnAfter (handle m packet).result = false) :
    exists k, (round F ending handle)^[k] (reading n s) = ended := by
  induction h with
  | first hread =>
      exact ⟨1, by simp [round, afterRead, hread, hlast]⟩
  | later hread hgoesOn _ ih =>
      rcases ih hlast with ⟨k, hk⟩
      refine ⟨k + 1, ?_⟩
      rw [Function.iterate_succ_apply, round, hread]
      unfold afterRead
      simp only [hgoesOn, if_true]
      exact hk
  | refused hread he _ ih =>
      rcases ih hlast with ⟨k, hk⟩
      refine ⟨k + 1, ?_⟩
      rw [Function.iterate_succ_apply, round, hread]
      unfold afterRead
      simp only [readsOnAfter_of_isIo_eq_false he, if_true]
      exact hk

theorem not_delivers_nil {n m : Nat} {packet : UsbMuxPacket} :
    ¬ Delivers F ending handle n [] m packet := by
  have hprogress := fromReader_progress F ending []
  intro h
  cases h with
  | first hread =>
      rw [hread] at hprogress
      cases hprogress with
      | ok hshorter => exact Nat.not_lt_zero _ hshorter
  | later hread hgoesOn hlater =>
      rw [hread] at hprogress
      cases hprogress with
      | ok hshorter => exact Nat.not_lt_zero _ hshorter
  | refused hread he hlater =>
      rw [hread] at hprogress
      cases hprogress with
      | refused _ hshorter => exact Nat.not_lt_zero _ hshorter
      | exhausted => cases he

theorem reading_of_ending (hending : readsOnAfter (.io ending) = true)
    (k : Nat) {n : Nat} {s : List UInt8}
    (hgoesOn : forall m packet, Delivers F ending handle n s m packet ->
      goesOnAfter (handle m packet).result = true) :
    exists m rest, (round F ending handle)^[k] (reading n s) =
      reading m rest := by
  induction k generalizing n s with
  | zero => exact ⟨n, s, rfl⟩
  | succ k ih =>
      rw [Function.iterate_succ_apply]
      rcases round_cases F ending handle n s with
        ⟨packet, rest, hread, _, hround⟩ | ⟨e, rest, hread, he, _, hround⟩ |
        hround
      · have hresult := hgoesOn n packet (.first hread)
        rw [hround, hresult]
        exact ih fun m other hother =>
          hgoesOn m other (.later hread hresult hother)
      · rw [hround]
        exact ih fun m other hother =>
          hgoesOn m other (.refused hread he hother)
      · rw [hround, hending]
        exact ih fun m other hother => absurd hother not_delivers_nil

/--
Whatever the client has sent before it is gone, and whatever the handlers do with
it, the loop ends exactly if reads then fail with one of the three kinds of error
or a handler has ended the loop before.
-/
theorem terminates_iff (F : Plist.Format) (ending : IoError)
    (handle : MessageHandler) (stream : List UInt8) :
    Terminates F ending handle stream <->
      (ending.kind = .unexpectedEof ∨ ending.kind = .connectionReset ∨
        ending.kind = .brokenPipe) ∨
        HandlerEnds F ending handle stream := by
  rw [← readsOnAfter_eq_false_iff]
  constructor
  · rintro ⟨k, hended⟩
    cases hending : readsOnAfter (.io ending) with
    | false => exact Or.inl rfl
    | true =>
        right
        by_contra hnone
        have hgoesOn : forall m packet,
            Delivers F ending handle 0 stream m packet ->
              goesOnAfter (handle m packet).result = true := by
          intro m packet hdelivers
          by_contra hlast
          exact hnone ⟨m, packet, hdelivers, Bool.eq_false_iff.mpr hlast⟩
        rcases reading_of_ending hending k hgoesOn with ⟨m, rest, hreading⟩
        cases hreading.symm.trans hended
  · rintro (hending | hends)
    · exact terminates_of_ending hending stream
    · rcases hends with ⟨m, packet, hdelivers, hlast⟩
      exact exists_iterate_of_delivers hdelivers hlast

end

/-- A client whose connection was aborted is read from for ever. -/
theorem not_terminates_connectionAborted :
    ¬ forall (F : Plist.Format) (ending : IoError) (handle : MessageHandler)
      (stream : List UInt8), Terminates F ending handle stream := by
  intro h
  rcases h ⟨fun _ => .error ⟨""⟩, fun _ => []⟩ { kind := .connectionAborted }
    (fun _ _ => { result := .ok .continue }) [] with ⟨k, hended⟩
  have hfixed := (Function.iterate_fixed rfl k).symm.trans hended
  cases hfixed

end ClientLoop

end Handler
end Rusbmux
