import Mathlib.Logic.Function.Iterate
import Mathlib.Logic.Relation
import Rusbmux.Foundation.ByteReader

/-!
# Loops that read one frame after another

A read loop calls a reader on what is left of a stream, decides from the value
or the error whether to go on, and calls it again where the last call stopped
reading.  Two questions about such a loop recur: whether it ever stops the
program, and whether it keeps to the frame boundaries of a stream that is a
sequence of frames.
-/

namespace Foundation

inductive ReadLoop where
  | reading (rest : List UInt8)
  | left (rest : List UInt8)
  | stopped
  | panicked
deriving DecidableEq, Repr

theorem drop_append_eq_right_iff {front back : List UInt8} {n : Nat}
    (h : n <= front.length) :
    (front ++ back).drop n = back <-> n = front.length := by
  constructor
  · intro hdrop
    have hlen := congrArg List.length hdrop
    rw [List.length_drop, List.length_append] at hlen
    omega
  · intro hn
    rw [hn, List.drop_left]

/--
A loop that is not yet over comes to its end if each round ends it or makes the
state smaller.
-/
theorem exists_iterate_of_decreasing {state : Type} {round : state -> state}
    (stopped : state -> Prop) (size : state -> Nat)
    (hround : forall s, ¬ stopped s ->
      stopped (round s) ∨ size (round s) < size s)
    (s : state) : exists n, stopped (round^[n] s) := by
  induction hsize : size s using Nat.strongRecOn generalizing s with
  | ind k ih =>
      by_cases hstopped : stopped s
      · exact ⟨0, hstopped⟩
      · rcases hround s hstopped with hnext | hsmaller
        · exact ⟨1, hnext⟩
        · rw [hsize] at hsmaller
          rcases ih (size (round s)) hsmaller (round s) rfl with ⟨n, hn⟩
          exact ⟨n + 1, hn⟩

namespace ReadLoop

variable {error value : Type}

/--
One round of the loop: it goes on after a value that satisfies `stay` and after
an error that satisfies `tolerate`.
-/
def step (r : Reader error value) (stay : value -> Bool)
    (tolerate : error -> Bool) : ReadLoop -> ReadLoop
  | reading s =>
      match r.run s with
      | .ok v rest => if stay v then reading rest else left rest
      | .error e rest => if tolerate e then reading rest else stopped
      | .panicked => panicked
  | state => state

theorem step_reading (r : Reader error value) (stay : value -> Bool)
    (tolerate : error -> Bool) (s : List UInt8) :
    step r stay tolerate (reading s) =
      match r.run s with
      | .ok v rest => if stay v then reading rest else left rest
      | .error e rest => if tolerate e then reading rest else stopped
      | .panicked => panicked := rfl

theorem step_of_not_reading (r : Reader error value) (stay : value -> Bool)
    (tolerate : error -> Bool) (state : ReadLoop)
    (h : forall s, state ≠ reading s) : step r stay tolerate state = state := by
  cases state with
  | reading s => exact absurd rfl (h s)
  | left s => rfl
  | stopped => rfl
  | panicked => rfl

/-!
## Verdicts

A verdict says from the bytes alone what one round does.  A loop that follows a
verdict can be reasoned about without its reader.
-/

inductive Verdict where
  | stops
  | goesOn (taken : Nat)
  | leaves (taken : Nat)
  | panics
deriving DecidableEq, Repr

def Verdict.next (s : List UInt8) : Verdict -> ReadLoop
  | stops => stopped
  | goesOn n => reading (s.drop n)
  | leaves n => left (s.drop n)
  | panics => panicked

def Visits (verdict : List UInt8 -> Verdict) :
    List UInt8 -> List UInt8 -> Prop :=
  Relation.ReflTransGen fun s t =>
    exists n, verdict s = .goesOn n ∧ t = s.drop n

section Follows

variable {round : ReadLoop -> ReadLoop} {verdict : List UInt8 -> Verdict}

theorem iterate_of_visits
    (hfollows : forall s, round (reading s) = (verdict s).next s)
    {s t : List UInt8} (h : Visits verdict s t) :
    exists n, round^[n] (reading s) = reading t := by
  induction h with
  | refl => exact ⟨0, rfl⟩
  | tail _ hlast ih =>
      rcases ih with ⟨n, hn⟩
      rcases hlast with ⟨taken, hverdict, rfl⟩
      exists n + 1
      rw [Function.iterate_succ_apply', hn, hfollows, hverdict]
      rfl

theorem iterate_fixed {state : ReadLoop} (hfixed : round state = state)
    (n : Nat) : round^[n] state = state :=
  Function.iterate_fixed hfixed n

theorem visits_of_iterate
    (hfollows : forall s, round (reading s) = (verdict s).next s)
    (hkeep : forall state, (forall s, state ≠ reading s) -> round state = state)
    (s : List UInt8) (n : Nat) :
    (exists t, Visits verdict s t ∧ round^[n] (reading s) = reading t) ∨
      exists t, Visits verdict s t ∧
        (forall taken, verdict t ≠ .goesOn taken) ∧
        round^[n] (reading s) = (verdict t).next t := by
  induction n with
  | zero => exact Or.inl ⟨s, Relation.ReflTransGen.refl, rfl⟩
  | succ n ih =>
      rw [Function.iterate_succ_apply']
      cases ih with
      | inl h =>
          rcases h with ⟨t, hvisits, hn⟩
          rw [hn, hfollows]
          cases hverdict : verdict t with
          | goesOn taken =>
              exact Or.inl ⟨t.drop taken,
                hvisits.tail ⟨taken, hverdict, rfl⟩, rfl⟩
          | stops =>
              refine Or.inr ⟨t, hvisits, ?_, by rw [hverdict]⟩
              intro taken h
              rw [hverdict] at h
              cases h
          | leaves m =>
              refine Or.inr ⟨t, hvisits, ?_, by rw [hverdict]⟩
              intro taken h
              rw [hverdict] at h
              cases h
          | panics =>
              refine Or.inr ⟨t, hvisits, ?_, by rw [hverdict]⟩
              intro taken h
              rw [hverdict] at h
              cases h
      | inr h =>
          rcases h with ⟨t, hvisits, hends, hn⟩
          refine Or.inr ⟨t, hvisits, hends, ?_⟩
          rw [hn]
          apply hkeep
          intro u
          cases hverdict : verdict t with
          | goesOn taken => exact absurd hverdict (hends taken)
          | stops => simp [Verdict.next]
          | leaves m => simp [Verdict.next]
          | panics => simp [Verdict.next]

theorem never_panics_iff
    (hfollows : forall s, round (reading s) = (verdict s).next s)
    (hkeep : forall state, (forall s, state ≠ reading s) -> round state = state)
    (s : List UInt8) :
    (forall n, round^[n] (reading s) ≠ panicked) <->
      forall t, Visits verdict s t -> verdict t ≠ .panics := by
  constructor
  · intro h t hvisits hpanics
    rcases iterate_of_visits hfollows hvisits with ⟨n, hn⟩
    apply h (n + 1)
    rw [Function.iterate_succ_apply', hn, hfollows, hpanics]
    rfl
  · intro h n hpanicked
    cases visits_of_iterate hfollows hkeep s n with
    | inl hreading =>
        rcases hreading with ⟨t, _, hn⟩
        rw [hn] at hpanicked
        cases hpanicked
    | inr hended =>
        rcases hended with ⟨t, hvisits, hends, hn⟩
        rw [hn] at hpanicked
        cases hverdict : verdict t with
        | panics => exact h t hvisits hverdict
        | goesOn taken => exact hends taken hverdict
        | stops =>
            rw [hverdict] at hpanicked
            cases hpanicked
        | leaves m =>
            rw [hverdict] at hpanicked
            cases hpanicked

theorem left_iff
    (hfollows : forall s, round (reading s) = (verdict s).next s)
    (hkeep : forall state, (forall s, state ≠ reading s) -> round state = state)
    (s u : List UInt8) :
    (exists n, round^[n] (reading s) = left u) <->
      exists t taken, Visits verdict s t ∧ verdict t = .leaves taken ∧
        u = t.drop taken := by
  constructor
  · intro h
    rcases h with ⟨n, hleft⟩
    cases visits_of_iterate hfollows hkeep s n with
    | inl hreading =>
        rcases hreading with ⟨t, _, hn⟩
        rw [hn] at hleft
        cases hleft
    | inr hended =>
        rcases hended with ⟨t, hvisits, hends, hn⟩
        rw [hn] at hleft
        cases hverdict : verdict t with
        | leaves taken =>
            rw [hverdict] at hleft
            cases hleft
            exact ⟨t, taken, hvisits, hverdict, rfl⟩
        | goesOn taken => exact absurd hverdict (hends taken)
        | stops =>
            rw [hverdict] at hleft
            cases hleft
        | panics =>
            rw [hverdict] at hleft
            cases hleft
  · intro h
    rcases h with ⟨t, taken, hvisits, hverdict, rfl⟩
    rcases iterate_of_visits hfollows hvisits with ⟨n, hn⟩
    exists n + 1
    rw [Function.iterate_succ_apply', hn, hfollows, hverdict]
    rfl

end Follows

/-!
## Frame boundaries
-/

def ConsumesExactly (r : Reader error value) (refusal : error -> Bool)
    (frame later : List UInt8) : Prop :=
  (exists v, r.run (frame ++ later) = .ok v later) ∨
    exists e, refusal e = true ∧ r.run (frame ++ later) = .error e later

/--
On a stream of frames, every round of the loop starts at a frame boundary and
takes exactly one frame, until the loop is left after a value.
-/
def KeepsBoundaries (r : Reader error value) (stay : value -> Bool)
    (tolerate refusal : error -> Bool) (frames : List (List UInt8))
    (tail : List UInt8) : Prop :=
  forall done frame later, frames = done ++ frame :: later ->
    ConsumesExactly r refusal frame (later.flatten ++ tail) ∧
      ((step r stay tolerate)^[done.length] (reading (frames.flatten ++ tail)) =
          reading (frame ++ (later.flatten ++ tail)) ∨
        exists rest,
          (step r stay tolerate)^[done.length]
            (reading (frames.flatten ++ tail)) = left rest)

theorem step_of_consumesExactly {r : Reader error value}
    (stay : value -> Bool) {tolerate refusal : error -> Bool}
    (hrefusal : forall e, refusal e = true -> tolerate e = true)
    {frame later : List UInt8} (h : ConsumesExactly r refusal frame later) :
    step r stay tolerate (reading (frame ++ later)) = reading later ∨
      step r stay tolerate (reading (frame ++ later)) = left later := by
  cases h with
  | inl hok =>
      rcases hok with ⟨v, hv⟩
      rw [step_reading, hv]
      cases hstay : stay v with
      | true => exact Or.inl (if_pos hstay)
      | false => exact Or.inr (if_neg (by simp [hstay]))
  | inr herr =>
      rcases herr with ⟨e, hrefused, he⟩
      rw [step_reading, he]
      exact Or.inl (if_pos (hrefusal e hrefused))

theorem keepsBoundaries_iff (r : Reader error value) (stay : value -> Bool)
    {tolerate refusal : error -> Bool}
    (hrefusal : forall e, refusal e = true -> tolerate e = true)
    (frames : List (List UInt8)) (tail : List UInt8) :
    KeepsBoundaries r stay tolerate refusal frames tail <->
      forall done frame later, frames = done ++ frame :: later ->
        ConsumesExactly r refusal frame (later.flatten ++ tail) := by
  constructor
  · intro h done frame later hsplit
    exact (h done frame later hsplit).left
  · intro h done frame later hsplit
    refine ⟨h done frame later hsplit, ?_⟩
    induction done generalizing frames with
    | nil =>
        subst frames
        exact Or.inl (by simp)
    | cons first done ih =>
        subst frames
        have hfirst := h [] first (done ++ frame :: later) rfl
        have hrest := ih (done ++ frame :: later)
          (by
            intro done' frame' later' hsplit'
            exact h (first :: done') frame' later' (by
              rw [List.cons_append, hsplit']
              rfl))
          rfl
        rw [List.length_cons, Function.iterate_succ_apply,
          List.cons_append, List.flatten_cons, List.append_assoc]
        cases step_of_consumesExactly stay hrefusal hfirst with
        | inl hreading =>
            rw [hreading]
            exact hrest
        | inr hleft =>
            rw [hleft]
            exact Or.inr ⟨_, iterate_fixed rfl done.length⟩

/--
Frames of a type whose reads do not depend on what follows: the loop keeps to
the boundaries exactly when it reads each frame to its end.
-/
theorem keepsBoundaries_map_iff {frameType : Type} (r : Reader error value)
    (stay : value -> Bool) {tolerate refusal : error -> Bool}
    (hrefusal : forall e, refusal e = true -> tolerate e = true)
    (bytes : frameType -> List UInt8) {ReadToEnd : frameType -> Prop}
    (hframe : forall f later,
      ConsumesExactly r refusal (bytes f) later <-> ReadToEnd f)
    (frames : List frameType) (tail : List UInt8) :
    KeepsBoundaries r stay tolerate refusal (frames.map bytes) tail <->
      forall f, f ∈ frames -> ReadToEnd f := by
  rw [keepsBoundaries_iff r stay hrefusal]
  constructor
  · intro h f hf
    rcases List.append_of_mem hf with ⟨done, later, rfl⟩
    have hconsumes := h (done.map bytes) (bytes f) (later.map bytes) (by simp)
    exact (hframe f _).mp hconsumes
  · intro h done frame later hsplit
    rcases List.map_eq_append_iff.mp hsplit with
      ⟨_, rest, hframes, _, hrest⟩
    rcases List.map_eq_cons_iff.mp hrest with ⟨f, _, rfl, rfl, _⟩
    refine (hframe f _).mpr (h f ?_)
    rw [hframes]
    simp

end ReadLoop

end Foundation
